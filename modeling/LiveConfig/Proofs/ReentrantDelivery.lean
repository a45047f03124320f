import LiveConfig.Listeners
import LiveConfig.Proofs.Distinct

/-!
# Listeners that change the registry they are called from

A callback sees the registry it is called from: it registers listeners and removes them,
learns the identifiers and the answers, and in the end returns or panics (`Callback`).
`Stage` runs deliveries to such listeners and keeps account of the calls and of the
changes of the registry, those from the outside and those by callbacks.

A delivery makes the calls of the registry that it began with, whatever the callbacks do
(`Stage.exists_delivered`); only afterwards does it show what they have changed.  As no
identifier is given out twice before all are used up, one that was removed is not called
again (`Stage.deliver_of_history`).
-/

namespace LiveConfig

/-! ## Changes of the registry -/

inductive ListenerEdit (α : Type)
  | add (listener : α)
  | remove (id : ListenerId)

/-- How many registrations there are among the changes. -/
def ListenerEdit.registrations {α : Type} (edits : List (ListenerEdit α)) : Nat :=
  edits.countP fun
    | .add _ => true
    | .remove _ => false

namespace Listeners

open ListenerEdit (registrations)

variable {α : Type}

def ids (listeners : Listeners α) : List ListenerId := listeners.entries.map (·.1)

def edit (listeners : Listeners α) : ListenerEdit α → Listeners α
  | .add listener => (listeners.add listener).1
  | .remove id => (listeners.remove id).1

def editAll (listeners : Listeners α) (edits : List (ListenerEdit α)) : Listeners α :=
  edits.foldl edit listeners

@[simp] theorem editAll_nil (listeners : Listeners α) : listeners.editAll [] = listeners := rfl

@[simp] theorem editAll_cons (listeners : Listeners α) (first : ListenerEdit α)
    (rest : List (ListenerEdit α)) :
    listeners.editAll (first :: rest) = (listeners.edit first).editAll rest := rfl

theorem editAll_append (listeners : Listeners α) (edits more : List (ListenerEdit α)) :
    listeners.editAll (edits ++ more) = (listeners.editAll edits).editAll more :=
  List.foldl_append

theorem ids_add (listeners : Listeners α) (listener : α) :
    (listeners.add listener).1.ids = listeners.ids ++ [⟨listeners.next⟩] :=
  List.map_append

theorem ids_remove (listeners : Listeners α) (id : ListenerId) :
    (listeners.remove id).1.ids = listeners.ids.filter (· != id) := by
  unfold ids
  rw [List.filter_map]
  rfl

theorem registrations_add (listener : α) (rest : List (ListenerEdit α)) :
    registrations (.add listener :: rest) = registrations rest + 1 :=
  List.countP_cons_of_pos rfl

theorem registrations_remove (id : ListenerId) (rest : List (ListenerEdit α)) :
    registrations (.remove id :: rest) = registrations rest :=
  List.countP_cons_of_neg Bool.false_ne_true

theorem registrations_append (edits more : List (ListenerEdit α)) :
    registrations (edits ++ more) = registrations edits + registrations more :=
  List.countP_append

theorem contains_iff (listeners : Listeners α) (id : ListenerId) :
    listeners.contains id = true ↔ id ∈ listeners.ids := by
  simp [contains, ids]

/-- Whether the identifiers are numbered as they are given out, and so many were. -/
structure Numbered (listeners : Listeners α) (given : Nat) : Prop where
  next : listeners.next = UInt64.ofNat given
  lt_given : ∀ id ∈ listeners.ids, id.number.toNat < given
  nodup : listeners.ids.Nodup

namespace Numbered

variable {listeners : Listeners α} {given : Nat}

/-- The counter has not come round to a number that was given out. -/
theorem toNat_next (h : listeners.Numbered given) (hroom : given < 0x10000000000000000) :
    listeners.next.toNat = given := by
  rw [h.next, UInt64.toNat_ofNat', Nat.mod_eq_of_lt hroom]

theorem add (h : listeners.Numbered given) (hroom : given < 0x10000000000000000) (listener : α) :
    (listeners.add listener).1.Numbered (given + 1) := by
  have hnext := h.toNat_next hroom
  constructor
  · change listeners.next + 1 = _
    rw [h.next, UInt64.ofNat_add]
    rfl
  · intro id hid
    rw [ids_add, List.mem_append, List.mem_singleton] at hid
    rcases hid with hid | rfl
    · exact Nat.lt_succ_of_lt (h.lt_given id hid)
    · rw [hnext]
      exact Nat.lt_succ_self given
  · have hnew : (⟨listeners.next⟩ : ListenerId) ∉ listeners.ids := by
      intro hmem
      exact Nat.lt_irrefl _ (hnext ▸ h.lt_given _ hmem)
    rw [ids_add, ← List.concat_eq_append]
    exact h.nodup.concat hnew

theorem remove (h : listeners.Numbered given) (id : ListenerId) :
    (listeners.remove id).1.Numbered given := by
  constructor
  · exact h.next
  · intro other hother
    rw [ids_remove] at hother
    exact h.lt_given other (List.mem_of_mem_filter hother)
  · rw [ids_remove]
    exact h.nodup.filter _

theorem editAll (h : listeners.Numbered given) {edits : List (ListenerEdit α)}
    (hroom : given + registrations edits ≤ 0x10000000000000000) :
    (listeners.editAll edits).Numbered (given + registrations edits) := by
  induction edits generalizing listeners given with
  | nil => exact h
  | cons first rest ih =>
      cases first with
      | add listener =>
          rw [registrations_add, ← Nat.add_assoc, Nat.add_right_comm] at hroom ⊢
          exact ih (h.add (by omega) listener) hroom
      | remove id => exact ih (h.remove id) hroom

end Numbered

theorem numbered_editAll_empty {edits : List (ListenerEdit α)}
    (hroom : registrations edits ≤ 0x10000000000000000) :
    (editAll ({} : Listeners α) edits).Numbered (registrations edits) := by
  have hempty : ({} : Listeners α).Numbered 0 := by
    constructor <;> simp [ids]
  rw [← Nat.zero_add (registrations edits)] at hroom ⊢
  exact hempty.editAll hroom

theorem entries_remove_of_split {listeners : Listeners α} (hnodup : listeners.ids.Nodup)
    {before after : List (ListenerId × α)} {id : ListenerId} {listener : α}
    (hsplit : listeners.entries = before ++ (id, listener) :: after) :
    (listeners.remove id).1.entries = before ++ after := by
  rw [ids, hsplit] at hnodup
  rw [remove, hsplit]
  exact filter_fst_ne_of_split hnodup

theorem remove_of_not_mem {listeners : Listeners α} {id : ListenerId}
    (hid : id ∉ listeners.ids) : (listeners.remove id).1 = listeners := by
  unfold remove
  rw [filter_fst_ne_eq_self hid]

/-- No identifier stands for two listeners, so that removing one takes away one listener. -/
structure Identified (listeners : Listeners α) : Prop where
  nodup : listeners.ids.Nodup
  remove_of_mem : ∀ id ∈ listeners.ids, ∃ before listener after,
    listeners.entries = before ++ (id, listener) :: after ∧
      (listeners.remove id).1.entries = before ++ after

theorem Numbered.identified {listeners : Listeners α} {given : Nat}
    (h : listeners.Numbered given) : listeners.Identified := by
  refine ⟨h.nodup, ?_⟩
  intro id hid
  obtain ⟨⟨found, listener⟩, hentry, rfl⟩ := List.mem_map.mp hid
  obtain ⟨before, after, hsplit⟩ := List.append_of_mem hentry
  exact ⟨before, listener, after, hsplit, entries_remove_of_split h.nodup hsplit⟩

/-- An identifier that was given out and is not registered stays so: the next one given out
is another. -/
theorem Numbered.not_mem_ids_editAll {listeners : Listeners α} {given : Nat} {id : ListenerId}
    (h : listeners.Numbered given) (hgiven : id.number.toNat < given) (hid : id ∉ listeners.ids)
    {edits : List (ListenerEdit α)} (hroom : given + registrations edits ≤ 0x10000000000000000) :
    id ∉ (listeners.editAll edits).ids := by
  induction edits generalizing listeners given with
  | nil => exact hid
  | cons first rest ih =>
      cases first with
      | add listener =>
          rw [registrations_add, ← Nat.add_assoc, Nat.add_right_comm] at hroom
          have hnext := h.toNat_next (by omega)
          refine ih (h.add (by omega) listener) (Nat.lt_succ_of_lt hgiven) ?_ hroom
          rw [edit, ids_add, List.mem_append, List.mem_singleton]
          rintro (hmem | rfl)
          · exact hid hmem
          · exact Nat.lt_irrefl _ (hnext ▸ hgiven)
      | remove other =>
          refine ih (h.remove other) hgiven ?_ hroom
          rw [edit, ids_remove]
          intro hmem
          exact hid (List.mem_of_mem_filter hmem)

theorem not_mem_ids_of_removed {before after : List (ListenerEdit α)} {id : ListenerId}
    (hid : id ∈ (editAll {} before).ids)
    (hroom : registrations (before ++ .remove id :: after) ≤ 0x10000000000000000) :
    id ∉ (editAll {} (before ++ .remove id :: after)).ids := by
  rw [registrations_append, registrations_remove] at hroom
  have hbefore := numbered_editAll_empty (show registrations before ≤ 0x10000000000000000 by omega)
  rw [editAll_append, editAll_cons]
  refine (hbefore.remove id).not_mem_ids_editAll (hbefore.lt_given id hid) ?_ hroom
  rw [ids_remove]
  intro hmem
  simpa using List.of_mem_filter hmem

/-- The calls that a delivery makes, each with the identifier that it is due to. -/
def callsById (listeners : Listeners α) (events : List ε) : List (ListenerId × α × ε) :=
  events.flatMap fun event => listeners.entries.map fun entry => (entry.1, entry.2, event)

theorem map_snd_callsById (listeners : Listeners α) (events : List ε) :
    (listeners.callsById events).map (·.2) = listeners.calls events := by
  simp [callsById, calls, toList, List.map_flatMap, Function.comp_def]

theorem mem_ids_of_mem_callsById {listeners : Listeners α} {events : List ε}
    {call : ListenerId × α × ε} (h : call ∈ listeners.callsById events) :
    call.1 ∈ listeners.ids := by
  obtain ⟨event, -, hcall⟩ := List.mem_flatMap.mp h
  obtain ⟨entry, hentry, rfl⟩ := List.mem_map.mp hcall
  exact List.mem_map_of_mem hentry

end Listeners

/-! ## Callbacks -/

/-- What a callback does, step by step, until it leaves a state behind. -/
inductive Callback (α σ : Type)
  | returns (state : σ)
  | panics (state : σ)
  | add (listener : α) (next : ListenerId → Callback α σ)
  | remove (id : ListenerId) (next : Bool → Callback α σ)

namespace Callback

variable {α σ : Type}

def run (listeners : Listeners α) : Callback α σ → Listeners α × CallOutcome σ
  | returns state => (listeners, .returned state)
  | panics state => (listeners, .panicked state)
  | add listener next =>
    let (listeners, id) := listeners.add listener
    (next id).run listeners
  | remove id next =>
    let (listeners, removed) := listeners.remove id
    (next removed).run listeners

/-- What a callback changes in the registry, in order. -/
def edits (listeners : Listeners α) : Callback α σ → List (ListenerEdit α)
  | returns _ => []
  | panics _ => []
  | add listener next =>
    let (listeners, id) := listeners.add listener
    .add listener :: (next id).edits listeners
  | remove id next =>
    let (listeners, removed) := listeners.remove id
    .remove id :: (next removed).edits listeners

theorem run_listeners (callback : Callback α σ) (listeners : Listeners α) :
    (callback.run listeners).1 = listeners.editAll (callback.edits listeners) := by
  induction callback generalizing listeners with
  | returns state => rfl
  | panics state => rfl
  | add listener next ih => exact ih _ _
  | remove id next ih => exact ih _ _

end Callback

/-! ## Deliveries -/

/-- A call of a listener, with what it did. -/
structure Invocation (α ε σ : Type) where
  listener : α
  event : ε
  edits : List (ListenerEdit α)
  outcome : CallOutcome σ

/-- A registry, the state that its listeners share, and what has happened so far. -/
structure Stage (α ε σ : Type) where
  listeners : Listeners α := {}
  state : σ
  /-- All changes of the registry, in order. -/
  edits : List (ListenerEdit α) := []
  /-- All calls of listeners, in order. -/
  invocations : List (Invocation α ε σ) := []

/-- What is done to a registry from the outside. -/
inductive Operation (α ε : Type)
  | edit (edit : ListenerEdit α)
  | notify (events : List ε)

namespace Stage

open ListenerEdit (registrations)

variable {α ε σ : Type} (behaviour : α → ε → σ → Callback α σ)

/-- Calls a listener, which finds the registry and the state as they are by then. -/
def invoke (listener : α) (event : ε) (stage : Stage α ε σ) : CallOutcome (Stage α ε σ) :=
  let callback := behaviour listener event stage.state
  let (listeners, outcome) := callback.run stage.listeners
  let edits := callback.edits stage.listeners
  let next : Stage α ε σ :=
    { listeners
      state := outcome.state
      edits := stage.edits ++ edits
      invocations := stage.invocations ++ [⟨listener, event, edits, outcome⟩] }
  match outcome with
  | .returned _ => .returned next
  | .panicked _ => .panicked next

def deliver (events : List ε) (stage : Stage α ε σ) : Stage α ε σ :=
  stage.listeners.notify events (invoke behaviour) stage

def perform (stage : Stage α ε σ) : Operation α ε → Stage α ε σ
  | .edit edit =>
    { stage with listeners := stage.listeners.edit edit, edits := stage.edits ++ [edit] }
  | .notify events => stage.deliver behaviour events

/-- What a history leads to that starts with no listeners. -/
def ofHistory (state : σ) (history : List (Operation α ε)) : Stage α ε σ :=
  history.foldl (perform behaviour) { state }

/-- How a stage comes from another one by calls, each known by the identifier it is due to. -/
structure Follows (stage : Stage α ε σ) (made : List (ListenerId × Invocation α ε σ))
    (next : Stage α ε σ) : Prop where
  invocations : next.invocations = stage.invocations ++ made.map (·.2)
  edits : next.edits = stage.edits ++ made.flatMap (·.2.edits)
  listeners : next.listeners = stage.listeners.editAll (made.flatMap (·.2.edits))

/-- Whether the callback returns or panics makes no difference to what it leaves. -/
theorem state_invoke (listener : α) (event : ε) (stage : Stage α ε σ) :
    (invoke behaviour listener event stage).state =
      let callback := behaviour listener event stage.state
      let edits := callback.edits stage.listeners
      let (listeners, outcome) := callback.run stage.listeners
      { listeners
        state := outcome.state
        edits := stage.edits ++ edits
        invocations := stage.invocations ++ [⟨listener, event, edits, outcome⟩] } := by
  unfold invoke
  dsimp only
  cases (behaviour listener event stage.state).run stage.listeners with
  | mk listeners outcome => cases outcome <;> rfl

theorem exists_invocation (id : ListenerId) (listener : α) (event : ε) (stage : Stage α ε σ) :
    ∃ invocation : Invocation α ε σ, invocation.listener = listener ∧
      invocation.event = event ∧
      stage.Follows [(id, invocation)] (invoke behaviour listener event stage).state := by
  have hlisteners := (behaviour listener event stage.state).run_listeners stage.listeners
  refine ⟨⟨listener, event, (behaviour listener event stage.state).edits stage.listeners,
    ((behaviour listener event stage.state).run stage.listeners).2⟩, rfl, rfl, ?_⟩
  rw [state_invoke]
  exact ⟨rfl, by simp, by simpa using hlisteners⟩

namespace Follows

theorem refl (stage : Stage α ε σ) : stage.Follows [] stage :=
  ⟨by simp, by simp, by simp⟩

theorem trans {stage between next : Stage α ε σ}
    {made more : List (ListenerId × Invocation α ε σ)} (h : stage.Follows made between)
    (hmore : between.Follows more next) : stage.Follows (made ++ more) next := by
  constructor
  · rw [hmore.invocations, h.invocations, List.map_append, List.append_assoc]
  · rw [hmore.edits, h.edits, List.flatMap_append, List.append_assoc]
  · rw [hmore.listeners, h.listeners, List.flatMap_append, Listeners.editAll_append]

end Follows

theorem exists_follows_foldl (calls : List (ListenerId × α × ε)) (stage : Stage α ε σ) :
    ∃ made : List (ListenerId × Invocation α ε σ),
      made.map (fun call => (call.1, call.2.listener, call.2.event)) = calls ∧
        stage.Follows made (calls.foldl
          (fun stage call => (invoke behaviour call.2.1 call.2.2 stage).state) stage) := by
  induction calls generalizing stage with
  | nil => exact ⟨[], rfl, Follows.refl stage⟩
  | cons call rest ih =>
      obtain ⟨id, listener, event⟩ := call
      obtain ⟨invocation, hlistener, hevent, hfirst⟩ :=
        exists_invocation behaviour id listener event stage
      obtain ⟨made, hcalls, hrest⟩ := ih (invoke behaviour listener event stage).state
      refine ⟨(id, invocation) :: made, ?_, hfirst.trans hrest⟩
      rw [List.map_cons, hcalls, hlistener, hevent]

/-- The calls are settled before the first callback runs. -/
theorem exists_delivered (events : List ε) (stage : Stage α ε σ) :
    ∃ made : List (ListenerId × Invocation α ε σ),
      made.map (fun call => (call.1, call.2.listener, call.2.event)) =
          stage.listeners.callsById events ∧
        stage.Follows made (stage.deliver behaviour events) := by
  obtain ⟨made, hcalls, hfollows⟩ :=
    exists_follows_foldl behaviour (stage.listeners.callsById events) stage
  refine ⟨made, hcalls, ?_⟩
  unfold deliver Listeners.notify
  rw [← Listeners.map_snd_callsById, List.foldl_map]
  exact hfollows

variable {behaviour}

/-- The registry is what its changes make of an empty one. -/
def Accounted (stage : Stage α ε σ) : Prop :=
  stage.listeners = Listeners.editAll {} stage.edits

theorem Accounted.perform {stage : Stage α ε σ} (h : stage.Accounted)
    (operation : Operation α ε) : (stage.perform behaviour operation).Accounted := by
  cases operation with
  | edit edit =>
      calc stage.listeners.edit edit = (Listeners.editAll {} stage.edits).editAll [edit] := by
            rw [← h]
            rfl
        _ = Listeners.editAll {} (stage.edits ++ [edit]) :=
            (Listeners.editAll_append _ _ _).symm
  | notify events =>
      obtain ⟨made, -, hfollows⟩ := exists_delivered behaviour events stage
      change (stage.deliver behaviour events).listeners = _
      rw [hfollows.listeners, h, ← Listeners.editAll_append, ← hfollows.edits]
      rfl

theorem accounted_ofHistory (state : σ) (history : List (Operation α ε)) :
    (ofHistory behaviour state history).Accounted := by
  have hrun : ∀ stage : Stage α ε σ, stage.Accounted →
      (history.foldl (Stage.perform behaviour) stage).Accounted := by
    induction history with
    | nil =>
        intro stage h
        exact h
    | cons first rest ih =>
        intro stage h
        exact ih _ (h.perform first)
  exact hrun _ rfl

/-- A delivery after any history calls, for each event in order, what is registered when it
begins, in the order of registration; panics and changes by callbacks do not matter to it.
Afterwards the registry shows the callbacks' changes in the order of the calls.  A removal
tells whether its identifier was registered.  As long as there are identifiers for all
registrations, none stands for two listeners, and one that was removed, be it by a callback,
is not called again. -/
theorem deliver_of_history {stage : Stage α ε σ} {state : σ} {history : List (Operation α ε)}
    (hstage : stage = ofHistory behaviour state history) (events : List ε) :
    (∀ edits : List (ListenerEdit α), registrations edits ≤ 0x10000000000000000 →
        (Listeners.editAll {} edits).Identified) ∧
      (∀ (listeners : Listeners α) (id : ListenerId),
        ((listeners.remove id).2 = true ↔ id ∈ listeners.ids) ∧
          (id ∉ listeners.ids → (listeners.remove id).1 = listeners)) ∧
      stage.listeners = Listeners.editAll {} stage.edits ∧
      ∃ made : List (ListenerId × Invocation α ε σ),
        made.map (fun call => (call.1, call.2.listener, call.2.event)) =
            (events.flatMap fun event =>
              stage.listeners.entries.map fun entry => (entry.1, entry.2, event)) ∧
          stage.Follows made (stage.deliver behaviour events) ∧
          (registrations stage.edits ≤ 0x10000000000000000 →
            ∀ before id after, stage.edits = before ++ .remove id :: after →
              id ∈ (Listeners.editAll {} before).ids → ∀ call ∈ made, call.1 ≠ id) := by
  have haccounted : stage.Accounted := by
    rw [hstage]
    exact accounted_ofHistory state history
  obtain ⟨made, hcalls, hfollows⟩ := exists_delivered behaviour events stage
  refine ⟨fun edits hroom => (Listeners.numbered_editAll_empty hroom).identified,
    fun listeners id => ⟨listeners.contains_iff id, Listeners.remove_of_not_mem⟩, haccounted,
    made, hcalls, hfollows, ?_⟩
  intro hroom before id after hedits hid call hcall heq
  have hgone : id ∉ stage.listeners.ids := by
    rw [hedits] at hroom
    rw [haccounted, hedits]
    exact Listeners.not_mem_ids_of_removed hid hroom
  have hmem : (call.1, call.2.listener, call.2.event) ∈ stage.listeners.callsById events := by
    rw [← hcalls]
    exact List.mem_map.mpr ⟨call, hcall, rfl⟩
  apply hgone
  rw [← heq]
  exact Listeners.mem_ids_of_mem_callsById hmem

/-- One listener panics, one removes itself and one brings along another. -/
def unruly : Nat → String → Nat → Callback Nat Nat
  | 0, _, told => .panics (told + 1)
  | 1, _, told => .remove ⟨1⟩ fun _ => .returns (told + 1)
  | 2, _, told => .add 3 fun _ => .returns (told + 1)
  | _, _, told => .returns (told + 1)

def unrulyStage : Stage Nat String Nat :=
  ofHistory unruly 0
    [.edit (.add 0), .edit (.add 1), .edit (.add 2), .notify ["first", "second"]]

theorem deliver_of_history_unruly :
    unrulyStage.invocations.map (fun call => (call.listener, call.event)) =
        [(0, "first"), (1, "first"), (2, "first"), (0, "second"), (1, "second"), (2, "second")] ∧
      ∃ made : List (ListenerId × Invocation Nat String Nat),
        made.map (fun call => (call.1.number, call.2.listener, call.2.event)) =
            [(0, 0, "third"), (2, 2, "third"), (3, 3, "third"), (4, 3, "third")] ∧
          unrulyStage.Follows made (unrulyStage.deliver unruly ["third"]) ∧
          ∀ call ∈ made, call.1 ≠ ⟨1⟩ := by
  obtain ⟨-, -, -, made, hcalls, hfollows, hgone⟩ :=
    deliver_of_history (show unrulyStage = _ from rfl) ["third"]
  refine ⟨rfl, made, ?_, hfollows, ?_⟩
  · have hnumbers := congrArg (List.map fun call => (call.1.number, call.2)) hcalls
    rw [List.map_map] at hnumbers
    exact hnumbers
  · exact hgone (by decide) [.add 0, .add 1, .add 2] ⟨1⟩ [.add 3, .remove ⟨1⟩, .add 3] rfl
      (by decide)

end Stage

end LiveConfig
