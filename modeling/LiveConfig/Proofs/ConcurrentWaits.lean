import LiveConfig.Proofs.ReadyGate
import Mathlib.Logic.Function.Iterate

/-!
# Calls that wait at the same time

A call that waits for the gate looks at it, and where its time has run out it publishes what
is loaded, sets the gate and returns (`Client.waitStep`).  These are steps of their own, as
are those of the thread that applies batches (`Client.applyStep`), and that thread may also
fail in between (`Crowd.Step`).

The gate is set once, and what it was set to is what every call returns that starts later.
A call that had found the gate unset returns without an error all the same, also if a failure
was first to set it.  So a caller is let in and later ones are turned away exactly if the run
fails while a call is between its look at the gate and its return
(`Crowd.stays_open_iff`).
-/

namespace LiveConfig

/-- How far a call that waits has come. -/
inductive WaitPhase
  | entered
  /-- The gate was unset when the time had run out. -/
  | lapsed
  | published
  | decided (outcome : Except Error Unit)
  | returned (outcome : Except Error Unit)

/-- How far the thread that applies batches has come. -/
inductive ApplyPhase
  | idle
  | loaded
  /-- The gate was unset. -/
  | opening
  /-- The gate was set. -/
  | replacing
  | published

namespace Client

variable {α : Type}

def waitStep (client : Client α) : WaitPhase → Client α × WaitPhase
  | .entered =>
    match client.gate with
    | some outcome => (client, .decided outcome)
    | none =>
      match client.onTimeout with
      | .raise =>
        (client, .decided (.error (.initializationTimeout client.initializationTimeout)))
      | .unlock => (client, .lapsed)
  | .lapsed => (client.publish.client, .published)
  | .published => (client.settle (.ok ()), .decided (.ok ()))
  | .decided outcome => (client, .returned outcome)
  | .returned outcome => (client, .returned outcome)

def applyStep (client : Client α) : ApplyPhase → Client α × ApplyPhase
  | .idle => (client, .idle)
  | .loaded => (client, if client.gate.isNone then .opening else .replacing)
  | .opening => (client.publish.client, .published)
  | .replacing => (client.publish.client, .idle)
  | .published => (client.settle (.ok ()), .idle)

/-- Undisturbed, the steps of a call are a wait. -/
theorem iterate_waitStep (client : Client α) :
    (fun state : Client α × WaitPhase => state.1.waitStep state.2)^[4] (client, .entered) =
      (client.awaitReady.client, .returned client.awaitReady.result) := by
  simp only [Function.iterate_succ, Function.iterate_zero, Function.comp_apply, id_eq]
  unfold awaitReady
  cases hgate : client.gate with
  | some outcome => simp [waitStep, hgate]
  | none =>
      cases htimeout : client.onTimeout with
      | raise => simp [waitStep, hgate, htimeout]
      | unlock => simp [waitStep, hgate, htimeout, finish]

/-- Undisturbed, the steps after a load are those that apply the batch. -/
theorem iterate_applyStep (client : Client α) (batch : Batch) (provenance : Provenance) :
    (fun state : Client α × ApplyPhase => state.1.applyStep state.2)^[3]
        ({ client with resolver := client.resolver.load batch provenance }, .loaded) =
      ((client.apply batch provenance).client, .idle) := by
  simp only [Function.iterate_succ, Function.iterate_zero, Function.comp_apply, id_eq]
  unfold apply
  cases client.gate with
  | some outcome => simp [applyStep]
  | none => simp [applyStep, finish]

theorem gate_waitStep (client : Client α) {outcome : Except Error Unit}
    (h : client.gate = some outcome) (phase : WaitPhase) :
    (client.waitStep phase).1.gate = some outcome := by
  cases phase with
  | entered => simp [waitStep, h]
  | lapsed => exact h
  | published => simp [waitStep, settle, h]
  | decided _ => exact h
  | returned _ => exact h

theorem gate_applyStep (client : Client α) {outcome : Except Error Unit}
    (h : client.gate = some outcome) (phase : ApplyPhase) :
    (client.applyStep phase).1.gate = some outcome := by
  cases phase with
  | idle => exact h
  | loaded => exact h
  | opening => exact h
  | replacing => exact h
  | published => simp [applyStep, settle, h]

theorem onTimeout_waitStep (client : Client α) (phase : WaitPhase) :
    (client.waitStep phase).1.onTimeout = client.onTimeout := by
  cases phase with
  | entered =>
      simp only [waitStep]
      cases client.gate with
      | some outcome => rfl
      | none => cases htimeout : client.onTimeout <;> exact htimeout
  | lapsed => rfl
  | published => rfl
  | decided _ => rfl
  | returned _ => rfl

theorem onTimeout_applyStep (client : Client α) (phase : ApplyPhase) :
    (client.applyStep phase).1.onTimeout = client.onTimeout := by
  cases phase <;> rfl

end Client

namespace WaitPhase

variable {α : Type} {client : Client α}

/-- A call that has not looked at the gate, or has met the outcome there. -/
def Follows (outcome : Except Error Unit) : WaitPhase → Prop
  | entered => True
  | lapsed | published => False
  | decided own | returned own => own = outcome

/-- A call that goes on without the gate, or returns without an error for another reason. -/
def Admitted : WaitPhase → Prop
  | entered => False
  | lapsed | published => True
  | decided own | returned own => own = .ok ()

/-- A call whose outcome is open. -/
def Undecided : WaitPhase → Prop
  | entered | lapsed | published => True
  | decided _ | returned _ => False

/-- What may be said of a call by what the gate is. -/
def Fits (phase : WaitPhase) : Option (Except Error Unit) → Prop
  | none => phase.Undecided
  | some outcome => phase.Follows outcome ∨ phase.Admitted

variable {phase : WaitPhase} {gate : Option (Except Error Unit)}

theorem Follows.waitStep {outcome : Except Error Unit}
    (h : phase.Follows outcome) (hgate : client.gate = some outcome) :
    (client.waitStep phase).2.Follows outcome := by
  cases phase with
  | entered =>
      unfold Client.waitStep
      rw [hgate]
      rfl
  | lapsed => cases h
  | published => cases h
  | decided own => exact h
  | returned own => exact h

theorem Admitted.waitStep (h : phase.Admitted) (client : Client α) :
    (client.waitStep phase).2.Admitted := by
  cases phase with
  | entered => cases h
  | lapsed => trivial
  | published => rfl
  | decided own => exact h
  | returned own => exact h

theorem Undecided.follows_or_admitted (h : phase.Undecided)
    (outcome : Except Error Unit) : phase.Follows outcome ∨ phase.Admitted := by
  cases phase with
  | entered => exact .inl trivial
  | lapsed => exact .inr trivial
  | published => exact .inr trivial
  | decided _ => cases h
  | returned _ => cases h

theorem Fits.of_set (h : phase.Fits gate) {next : Option (Except Error Unit)}
    (hkept : ∀ outcome, gate = some outcome → next = some outcome) : phase.Fits next := by
  cases gate with
  | some outcome =>
      rw [hkept outcome rfl]
      exact h
  | none =>
      cases next with
      | none => exact h
      | some outcome => exact h.follows_or_admitted outcome

theorem Fits.waitStep (h : phase.Fits client.gate) (hunlock : client.onTimeout = .unlock) :
    (client.waitStep phase).2.Fits (client.waitStep phase).1.gate := by
  cases hgate : client.gate with
  | some outcome =>
      rw [client.gate_waitStep hgate]
      rw [hgate] at h
      rcases h with hfollows | hadmitted
      · exact .inl (hfollows.waitStep hgate)
      · exact .inr (hadmitted.waitStep client)
  | none =>
      rw [hgate] at h
      cases phase with
      | entered => simp [Client.waitStep, hgate, hunlock, Fits, Undecided]
      | lapsed =>
          have hpublish : client.publish.client.gate = none := hgate
          simp [Client.waitStep, hpublish, Fits, Undecided]
      | published => simp [Client.waitStep, Client.settle, hgate, Fits, Follows]
      | decided _ => cases h
      | returned _ => cases h

end WaitPhase

/-- A client with the thread that applies batches and the calls that wait, in the order in
which they started. -/
structure Crowd (α : Type) where
  client : Client α
  applier : ApplyPhase := .idle
  calls : List WaitPhase := []

namespace Crowd

variable {α : Type} {state next later : Crowd α} {outcome : Except Error Unit}

def start (client : Client α) : Crowd α := { client }

def enter (state : Crowd α) : Crowd α := { state with calls := state.calls ++ [.entered] }

/-- The call with this index takes a step. -/
def wait (state : Crowd α) (i : Nat) (phase : WaitPhase) : Crowd α :=
  { state with
    client := (state.client.waitStep phase).1
    calls := state.calls.set i (state.client.waitStep phase).2 }

def load (state : Crowd α) (batch : Batch) (provenance : Provenance) : Crowd α :=
  { state with
    client := { state.client with resolver := state.client.resolver.load batch provenance }
    applier := .loaded }

def apply (state : Crowd α) : Crowd α :=
  { state with
    client := (state.client.applyStep state.applier).1
    applier := (state.client.applyStep state.applier).2 }

/-- The thread fails, a panic in the midst of a batch included. -/
def fail (state : Crowd α) (error : Error) : Crowd α :=
  { state with client := state.client.fail error, applier := .idle }

inductive Step : Crowd α → Crowd α → Prop
  | enter (state : Crowd α) : Step state state.enter
  | wait {state : Crowd α} {i : Nat} {phase : WaitPhase}
      (is_called : state.calls[i]? = some phase) : Step state (state.wait i phase)
  | load (state : Crowd α) (batch : Batch) (provenance : Provenance)
      (is_idle : state.applier = .idle) : Step state (state.load batch provenance)
  | apply (state : Crowd α) : Step state state.apply
  | fail (state : Crowd α) (error : Error) : Step state (state.fail error)

abbrev Steps : Crowd α → Crowd α → Prop := Relation.ReflTransGen Step

/-- Once a call has returned without an error, so does every call that starts later. -/
def StaysOpen (state : Crowd α) : Prop :=
  ∀ between later, Steps state between → Steps between later →
    .returned (.ok ()) ∈ between.calls →
    ∀ i own, between.calls.length ≤ i → later.calls[i]? = some (.returned own) → own = .ok ()

/-- The calls from the `n`-th on follow the outcome. -/
def FollowsFrom (state : Crowd α) (n : Nat) (outcome : Except Error Unit) : Prop :=
  ∀ i phase, n ≤ i → state.calls[i]? = some phase → phase.Follows outcome

/-- A call has an outcome only if the gate has one. -/
structure Consistent (state : Crowd α) : Prop where
  onTimeout : state.client.onTimeout = .unlock
  calls : ∀ phase ∈ state.calls, phase.Fits state.client.gate

/-! ## One step -/

theorem Step.gate_eq (h : Step state next) (hgate : state.client.gate = some outcome) :
    next.client.gate = some outcome := by
  cases h with
  | enter => exact hgate
  | wait is_called => exact state.client.gate_waitStep hgate _
  | load batch provenance is_idle => exact hgate
  | apply => exact state.client.gate_applyStep hgate _
  | fail error =>
      have hsame : (state.fail error).client = state.client :=
        state.client.fail_of_set hgate error
      rw [hsame, hgate]

theorem Step.onTimeout_eq (h : Step state next) :
    next.client.onTimeout = state.client.onTimeout := by
  cases h with
  | enter => rfl
  | wait is_called => exact state.client.onTimeout_waitStep _
  | load batch provenance is_idle => rfl
  | apply => exact state.client.onTimeout_applyStep _
  | fail error => rfl

theorem Step.calls_cases (h : Step state next) :
    next.calls = state.calls ∨ next = state.enter ∨
      ∃ i phase, state.calls[i]? = some phase ∧ next = state.wait i phase := by
  cases h with
  | enter => exact .inr (.inl rfl)
  | wait is_called => exact .inr (.inr ⟨_, _, is_called, rfl⟩)
  | load batch provenance is_idle => exact .inl rfl
  | apply => exact .inl rfl
  | fail error => exact .inl rfl

theorem FollowsFrom.step {n : Nat} (h : state.FollowsFrom n outcome)
    (hgate : state.client.gate = some outcome) (hstep : Step state next) :
    next.FollowsFrom n outcome := by
  intro i phase hn hphase
  rcases hstep.calls_cases with hcalls | rfl | ⟨j, old, hold, rfl⟩
  · rw [hcalls] at hphase
    exact h i phase hn hphase
  · rw [enter, List.getElem?_append] at hphase
    split at hphase
    · exact h i phase hn hphase
    · have hentered : phase = .entered := List.mem_singleton.mp (List.mem_of_getElem? hphase)
      rw [hentered]
      trivial
  · rw [wait, List.getElem?_set] at hphase
    split at hphase
    case isFalse => exact h i phase hn hphase
    case isTrue hsame =>
      split at hphase
      · cases hphase
        have hfollows : old.Follows outcome := h j old (hsame ▸ hn) hold
        exact hfollows.waitStep hgate
      · cases hphase

theorem Consistent.step (h : state.Consistent) (hstep : Step state next) : next.Consistent := by
  constructor
  · rw [hstep.onTimeout_eq, h.onTimeout]
  · have hkept : ∀ phase ∈ state.calls, phase.Fits next.client.gate := by
      intro phase hphase
      exact (h.calls phase hphase).of_set fun outcome hgate => hstep.gate_eq hgate
    intro phase hphase
    rcases hstep.calls_cases with hcalls | rfl | ⟨i, old, hold, rfl⟩
    · rw [hcalls] at hphase
      exact hkept phase hphase
    · rcases List.mem_append.mp hphase with hbefore | hnew
      · exact hkept phase hbefore
      · rw [List.mem_singleton.mp hnew]
        cases hgate : state.enter.client.gate with
        | none => trivial
        | some outcome => exact .inl trivial
    · rcases List.mem_or_eq_of_mem_set hphase with hbefore | hmoved
      · exact hkept phase hbefore
      · rw [hmoved]
        exact (h.calls old (List.mem_of_getElem? hold)).waitStep h.onTimeout

/-! ## Any number of steps -/

theorem gate_eq_of_steps (hsteps : Steps state later)
    (hgate : state.client.gate = some outcome) : later.client.gate = some outcome := by
  induction hsteps with
  | refl => exact hgate
  | tail _ hstep ih => exact hstep.gate_eq ih

theorem FollowsFrom.steps {n : Nat} (h : state.FollowsFrom n outcome)
    (hgate : state.client.gate = some outcome) (hsteps : Steps state later) :
    later.FollowsFrom n outcome := by
  induction hsteps with
  | refl => exact h
  | tail hbefore hstep ih => exact ih.step (gate_eq_of_steps hbefore hgate) hstep

theorem Consistent.steps (h : state.Consistent) (hsteps : Steps state later) :
    later.Consistent := by
  induction hsteps with
  | refl => exact h
  | tail _ hstep ih => exact ih.step hstep

theorem consistent_start {client : Client α} (hunlock : client.onTimeout = .unlock) :
    (start client).Consistent :=
  ⟨hunlock, by simp [start]⟩

/-- Once the gate is set, a call that starts returns what it was set to. -/
theorem eq_of_returned_later (hgate : state.client.gate = some outcome)
    (hsteps : Steps state later) {i : Nat} {own : Except Error Unit}
    (hi : state.calls.length ≤ i) (hreturned : later.calls[i]? = some (.returned own)) :
    own = outcome := by
  have hnone : state.FollowsFrom state.calls.length outcome := by
    intro j phase hj hphase
    rw [List.getElem?_eq_none hj] at hphase
    cases hphase
  exact hnone.steps hgate hsteps i _ hi hreturned

/-! ## Who is let in -/

theorem StaysOpen.steps (h : state.StaysOpen) (hsteps : Steps state next) : next.StaysOpen :=
  fun between later hbetween => h between later (hsteps.trans hbetween)

theorem staysOpen_of_open (hgate : state.client.gate = some (.ok ())) : state.StaysOpen := by
  intro between later hbetween hlater _ i own hi hreturned
  have hopen : between.client.gate = some (.ok ()) := gate_eq_of_steps hbetween hgate
  exact eq_of_returned_later hopen hlater hi hreturned

/-- If no call got past the gate before it was closed, none returns without an error. -/
theorem staysOpen_of_failed (h : state.Consistent) {error : Error}
    (hgate : state.client.gate = some (.error error))
    (hcalls : ∀ phase ∈ state.calls, ¬ phase.Admitted) : state.StaysOpen := by
  have hfollows : state.FollowsFrom 0 (.error error) := by
    intro i phase _ hphase
    have hmem : phase ∈ state.calls := List.mem_of_getElem? hphase
    have hfits := h.calls phase hmem
    rw [hgate] at hfits
    exact hfits.resolve_right (hcalls phase hmem)
  intro between later hbetween _ hreturned
  obtain ⟨i, hi⟩ := List.mem_iff_getElem?.mp hreturned
  have hown : Except.ok () = .error error :=
    hfollows.steps hgate hbetween i _ (Nat.zero_le i) hi
  cases hown

theorem getElem?_wait {i : Nat} {phase : WaitPhase} (h : state.calls[i]? = some phase) :
    (state.wait i phase).calls[i]? = some (state.client.waitStep phase).2 := by
  have hi : i < state.calls.length := (List.getElem?_eq_some_iff.mp h).1
  exact List.getElem?_set_self hi

theorem exists_returned_of_decided {i : Nat}
    (h : state.calls[i]? = some (.decided (.ok ()))) :
    ∃ later, Steps state later ∧ later.calls[i]? = some (.returned (.ok ())) :=
  ⟨_, .single (.wait h), getElem?_wait h⟩

theorem exists_returned_of_published {i : Nat} (h : state.calls[i]? = some .published) :
    ∃ later, Steps state later ∧ later.calls[i]? = some (.returned (.ok ())) := by
  obtain ⟨later, hlater, hreturned⟩ := exists_returned_of_decided (getElem?_wait h)
  exact ⟨later, hlater.head (.wait h), hreturned⟩

/-- A call that is past the gate can go on and return. -/
theorem exists_returned_of_admitted {phase : WaitPhase} (hadmitted : phase.Admitted) {i : Nat}
    (hphase : state.calls[i]? = some phase) :
    ∃ later, Steps state later ∧ later.calls[i]? = some (.returned (.ok ())) := by
  cases phase with
  | entered => cases hadmitted
  | lapsed =>
      obtain ⟨later, hlater, hreturned⟩ := exists_returned_of_published (getElem?_wait hphase)
      exact ⟨later, hlater.head (.wait hphase), hreturned⟩
  | published => exact exists_returned_of_published hphase
  | decided own =>
      have hown : own = .ok () := hadmitted
      rw [hown] at hphase
      exact exists_returned_of_decided hphase
  | returned own =>
      have hown : own = .ok () := hadmitted
      rw [hown] at hphase
      exact ⟨state, .refl, hphase⟩

/-- Another call starts and looks at the gate. -/
def look (state : Crowd α) : Crowd α := state.enter.wait state.calls.length .entered

theorem getElem?_enter (state : Crowd α) :
    state.enter.calls[state.calls.length]? = some .entered := by
  simp [enter]

theorem steps_look (state : Crowd α) : Steps state state.look := by
  have henter : Steps state state.enter := .single (.enter state)
  exact henter.tail (.wait state.getElem?_enter)

theorem getElem?_look (state : Crowd α) :
    state.look.calls[state.calls.length]? = some (state.client.waitStep .entered).2 :=
  getElem?_wait state.getElem?_enter

/-- Once the gate is set, a call can start and return what it was set to. -/
theorem exists_returned_of_set (hgate : state.client.gate = some outcome) :
    ∃ later, Steps state later ∧ later.calls[state.calls.length]? = some (.returned outcome) := by
  have hdecided : (state.client.waitStep .entered).2 = .decided outcome := by
    simp [Client.waitStep, hgate]
  have hlook := state.getElem?_look
  rw [hdecided] at hlook
  exact ⟨_, state.steps_look.tail (.wait hlook), getElem?_wait hlook⟩

theorem not_staysOpen_of_admitted {error : Error}
    (hgate : state.client.gate = some (.error error)) {phase : WaitPhase}
    (hphase : phase ∈ state.calls) (hadmitted : phase.Admitted) : ¬ state.StaysOpen := by
  intro hstays
  obtain ⟨i, hi⟩ := List.mem_iff_getElem?.mp hphase
  obtain ⟨between, hbetween, hreturned⟩ := exists_returned_of_admitted hadmitted hi
  obtain ⟨later, hlater, hrefused⟩ := exists_returned_of_set (gate_eq_of_steps hbetween hgate)
  have hown : Except.error error = .ok () :=
    hstays between later hbetween hlater (List.mem_of_getElem? hreturned) _ _ le_rfl hrefused
  cases hown

/-- While the gate is unset a call may look at it just before a failure sets it. -/
theorem not_staysOpen_of_unset (hgate : state.client.gate = none)
    (hunlock : state.client.onTimeout = .unlock) : ¬ state.StaysOpen := by
  intro hstays
  have hwait : state.client.waitStep .entered = (state.client, .lapsed) := by
    simp [Client.waitStep, hgate, hunlock]
  have hlapsed := state.getElem?_look
  rw [hwait] at hlapsed
  have hunset : state.look.client.gate = none := by
    have hclient : state.look.client = (state.client.waitStep .entered).1 := rfl
    rw [hclient, hwait, hgate]
  have hfailed : (state.look.fail .unauthorized).client.gate = some (.error .unauthorized) := by
    simp [fail, Client.fail, Client.settle, hunset]
  refine not_staysOpen_of_admitted hfailed (List.mem_of_getElem? hlapsed) trivial ?_
  exact hstays.steps (state.steps_look.tail (.fail _ .unauthorized))

/-- Under the policy that goes on without an answer: no call returns before the gate is set,
every call that starts afterwards returns what it was set to, and a call is let in with later
ones turned away only after a failure, by a call that had looked at the gate before. -/
theorem stays_open_iff {client : Client α} (hunlock : client.onTimeout = .unlock)
    (hsteps : Steps (start client) state) :
    (∀ own, .returned own ∈ state.calls →
      ∃ outcome, state.client.gate = some outcome ∧ (own = outcome ∨ own = .ok ())) ∧
    (∀ outcome, state.client.gate = some outcome → ∀ later, Steps state later →
      later.client.gate = some outcome ∧
      ∀ i own, state.calls.length ≤ i → later.calls[i]? = some (.returned own) →
        own = outcome) ∧
    (state.StaysOpen ↔ state.client.gate = some (.ok ()) ∨
      ∃ error, state.client.gate = some (.error error) ∧
        ∀ phase ∈ state.calls, ¬ phase.Admitted) := by
  have hconsistent : state.Consistent := (consistent_start hunlock).steps hsteps
  refine ⟨?_, ?_, ?_, ?_⟩
  · intro own hreturned
    have hfits := hconsistent.calls _ hreturned
    cases hgate : state.client.gate with
    | none =>
        rw [hgate] at hfits
        cases hfits
    | some outcome =>
        rw [hgate] at hfits
        exact ⟨outcome, rfl, hfits⟩
  · intro outcome hgate later hlater
    refine ⟨gate_eq_of_steps hlater hgate, ?_⟩
    intro i own hi hreturned
    exact eq_of_returned_later hgate hlater hi hreturned
  · intro hstays
    cases hgate : state.client.gate with
    | none => exact absurd hstays (not_staysOpen_of_unset hgate hconsistent.onTimeout)
    | some outcome =>
        cases outcome with
        | ok done => exact .inl rfl
        | error error =>
            refine .inr ⟨error, rfl, ?_⟩
            intro phase hphase hadmitted
            exact not_staysOpen_of_admitted hgate hphase hadmitted hstays
  · rintro (hopen | ⟨error, hfailed, hcalls⟩)
    · exact staysOpen_of_open hopen
    · exact staysOpen_of_failed hconsistent hfailed hcalls

/-! ## Two callers -/

def hurried : Client Unit where
  resolver := .start .empty .empty .empty
  listeners := {}
  onTimeout := .unlock
  initializationTimeout := .ofMillis 10
  ambient := .empty
  environment := fun _ => none

/-- Neither call has looked at the gate before the failure. -/
def missed : Crowd Unit := (start hurried).enter.enter.fail .unauthorized

theorem stays_open_missed : Steps (start hurried) missed ∧ missed.StaysOpen := by
  have hentered : Steps (start hurried) (start hurried).enter.enter :=
    (Relation.ReflTransGen.single (.enter _)).tail (.enter _)
  have hsteps : Steps (start hurried) missed := hentered.tail (.fail _ .unauthorized)
  obtain ⟨-, -, hstays⟩ := stays_open_iff rfl hsteps
  refine ⟨hsteps, hstays.mpr (.inr ⟨.unauthorized, rfl, ?_⟩)⟩
  intro phase hphase
  have hentered : phase = .entered := List.eq_of_mem_replicate (n := 2) hphase
  rw [hentered]
  exact id

/-- The call has looked at the gate before the failure. -/
def unaware : Crowd Unit := ((start hurried).enter.wait 0 .entered).fail .unauthorized

def letIn : Crowd Unit :=
  ((unaware.wait 0 .lapsed).wait 0 .published).wait 0 (.decided (.ok ()))

def turnedAway : Crowd Unit :=
  (letIn.enter.wait 1 .entered).wait 1 (.decided (.error .unauthorized))

theorem second_call_turned_away :
    hurried.onTimeout = .unlock ∧ hurried.gate = none ∧
    Steps (start hurried) letIn ∧ letIn.calls = [.returned (.ok ())] ∧
    Steps letIn turnedAway ∧
    turnedAway.calls = [.returned (.ok ()), .returned (.error .unauthorized)] ∧
    ¬ (start hurried).StaysOpen := by
  have hfailed : Steps (start hurried) unaware :=
    ((Relation.ReflTransGen.single (.enter _)).tail (.wait rfl)).tail (.fail _ .unauthorized)
  have hfirst : Steps (start hurried) letIn :=
    ((hfailed.tail (.wait rfl)).tail (.wait rfl)).tail (.wait rfl)
  have hsecond : Steps letIn turnedAway :=
    ((Relation.ReflTransGen.single (.enter _)).tail (.wait rfl)).tail (.wait rfl)
  refine ⟨rfl, rfl, hfirst, rfl, hsecond, rfl, ?_⟩
  intro hstays
  have hown : Except.error Error.unauthorized = .ok () :=
    hstays letIn turnedAway hfirst hsecond (.head _) 1 _ le_rfl rfl
  cases hown

end Crowd
end LiveConfig
