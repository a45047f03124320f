import LiveConfig.Client
import LiveConfig.Proofs.PublishedChanges
import Mathlib.Data.List.Induction
import Mathlib.Data.Set.Subsingleton
import Mathlib.Logic.Relation

/-!
# Several threads that publish

A thread that publishes first updates the resolver and then, as a step of its own, tells
the listeners what has changed (`Broadcast.Step`).  Updates happen one after another, but
between an update and its delivery other threads take steps, so lists of changes may be
delivered in another order than that of their updates.

A listener that carries out what it is told (`Follows`) is told everything exactly once.
In the end it holds the published configuration of a key exactly if the change of the key
that it was told last leaves what the one published last leaves
(`Broadcast.held_same_iff`).  One publishing thread never misses that; two may
(`Broadcast.late_delivery_keeps_old`).
-/

namespace LiveConfig

namespace Change

/-- The configuration that the last change of a key leaves, if there is any. -/
def newest? (changes : List Change) (key : String) : Option Config :=
  (changes.reverse.find? (·.key == key)).bind (·.new)

theorem newest?_concat (changes : List Change) (change : Change) (key : String) :
    newest? (changes ++ [change]) key =
      if key = change.key then change.new else newest? changes key := by
  unfold newest?
  rw [List.reverse_concat]
  by_cases hkey : key = change.key
  · rw [if_pos hkey, List.find?_cons_of_pos (by simp [hkey]), Option.bind_some]
  · rw [if_neg hkey, List.find?_cons_of_neg (by simpa using Ne.symm hkey)]

theorem get?_replay_empty (changes : List Change) (key : String) :
    (replay .empty changes).get? key = newest? changes key := by
  induction changes using List.reverseRecOn with
  | nil => rfl
  | append_singleton changes change ih =>
      have hlast : replay .empty (changes ++ [change]) = apply (replay .empty changes) change :=
        replay_append .empty changes [change]
      rw [hlast, get?_apply, newest?_concat, ih]

theorem apply_apply (map : KeyMap Config) (change : Change) :
    apply (apply map change) change = apply map change := by
  apply KeyMap.ext_get?
  intro key
  rw [get?_apply, get?_apply]
  split <;> rfl

end Change

/-! ## Listeners that follow -/

variable {α : Type} {me : α} {call : α → Change → KeyMap Config → CallOutcome (KeyMap Config)}

/-- Whether a listener carries out on its map each change that it is told, and no other
listener touches that map. -/
structure Follows (me : α) (call : α → Change → KeyMap Config → CallOutcome (KeyMap Config)) :
    Prop where
  own : ∀ change map, (call me change map).state = change.apply map
  other : ∀ listener change map, listener ≠ me → (call listener change map).state = map

namespace Follows

/-- Being told a change once more alters nothing, so it does not matter how often the
listener is registered. -/
theorem foldl_told (h : Follows me call) (change : Change) (listeners : List α)
    (map : KeyMap Config) :
    listeners.foldl (fun map listener => (call listener change map).state) (change.apply map) =
      change.apply map := by
  induction listeners with
  | nil => rfl
  | cons listener rest ih =>
      have hkept : (call listener change (change.apply map)).state = change.apply map := by
        by_cases hme : listener = me
        · rw [hme, h.own, Change.apply_apply]
        · exact h.other listener change _ hme
      rw [List.foldl_cons, hkept, ih]

theorem foldl_of_mem (h : Follows me call) (change : Change) {listeners : List α}
    (hme : me ∈ listeners) (map : KeyMap Config) :
    listeners.foldl (fun map listener => (call listener change map).state) map =
      change.apply map := by
  induction listeners with
  | nil => cases hme
  | cons listener rest ih =>
      by_cases hfirst : listener = me
      · rw [List.foldl_cons, hfirst, h.own, h.foldl_told]
      · have hrest : me ∈ rest := (List.mem_cons.mp hme).resolve_left (Ne.symm hfirst)
        rw [List.foldl_cons, h.other _ _ _ hfirst, ih hrest]

theorem notify_eq (h : Follows me call) {listeners : Listeners α} (hme : me ∈ listeners.toList)
    (changes : List Change) (map : KeyMap Config) :
    listeners.notify changes call map = Change.replay map changes := by
  unfold Listeners.notify Listeners.calls
  induction changes generalizing map with
  | nil => rfl
  | cons change rest ih =>
      have hfirst := h.foldl_of_mem change hme map
      have hreplay : Change.replay map (change :: rest) =
          Change.replay (change.apply map) rest := rfl
      rw [List.flatMap_cons, List.foldl_append, List.foldl_map, hfirst, ih, hreplay]

end Follows

/-! ## Steps of threads -/

/-- Opening the gate changes neither what is published nor who is told. -/
theorem Client.apply_publishes (client : Client α) (batch : Batch) (provenance : Provenance) :
    (client.apply batch provenance).client.resolver =
        (client.resolver.load batch provenance).act .update ∧
      (client.apply batch provenance).notified =
        client.listeners.calls (client.resolver.load batch provenance).update.2 := by
  simp only [Client.apply]
  split <;> exact ⟨rfl, rfl⟩

/-- A resolver and a listener that follows, between the steps of the threads. -/
structure Broadcast where
  resolver : Resolver
  /-- The threads that have published and not delivered yet, with what they have to tell. -/
  pending : List (Nat × List Change) := []
  /-- The map of the listener. -/
  held : KeyMap Config := .empty
  /-- What the updates tell, in their order. -/
  published : List (List Change) := []
  /-- What the listeners were told, in that order. -/
  delivered : List (List Change) := []

namespace Broadcast

/-- A step of one thread.  A thread that has updated delivers before it updates again;
others may update, deliver and load in between. -/
inductive Step (threads : Set Nat) (me : α)
    (call : α → Change → KeyMap Config → CallOutcome (KeyMap Config)) :
    Broadcast → Broadcast → Prop
  | load {state : Broadcast} (action : Action) (is_load : action ≠ .update) :
      Step threads me call state { state with resolver := state.resolver.act action }
  /-- The changes are told in any order. -/
  | update {state : Broadcast} (thread : Nat) {changes : List Change}
      (is_publisher : thread ∈ threads) (is_idle : thread ∉ state.pending.map (·.1))
      (is_told : changes.Perm state.resolver.update.2) :
      Step threads me call state
        { state with
          resolver := state.resolver.act .update
          pending := state.pending ++ [(thread, changes)]
          published := state.published ++ [changes] }
  /-- The listeners are those registered at the time of the delivery. -/
  | deliver {state : Broadcast} {thread : Nat} {changes : List Change}
      {rest : List (Nat × List Change)} {listeners : Listeners α}
      (is_pending : state.pending.Perm ((thread, changes) :: rest))
      (is_registered : me ∈ listeners.toList) :
      Step threads me call state
        { state with
          pending := rest
          held := listeners.notify changes call state.held
          delivered := state.delivered ++ [changes] }

abbrev Steps (threads : Set Nat) (me : α)
    (call : α → Change → KeyMap Config → CallOutcome (KeyMap Config)) :
    Broadcast → Broadcast → Prop :=
  Relation.ReflTransGen (Step threads me call)

variable {threads : Set Nat} {state next : Broadcast}

/-- A client publishes by an update and a delivery of one thread. -/
theorem steps_publish (client : Client α) (hme : me ∈ client.listeners.toList) {thread : Nat}
    (hthread : thread ∈ threads) (hidle : thread ∉ state.pending.map (·.1)) :
    Steps threads me call { state with resolver := client.resolver }
      { state with
        resolver := client.publish.client.resolver
        held := client.publish.notified.foldl
          (fun map (listener, change) => (call listener change map).state) state.held
        published := state.published ++ [client.resolver.update.2]
        delivered := state.delivered ++ [client.resolver.update.2] } := by
  have hpending := List.perm_append_singleton (thread, client.resolver.update.2) state.pending
  have hupdate : Step threads me call { state with resolver := client.resolver } _ :=
    .update thread hthread hidle (List.Perm.refl _)
  exact .tail (.single hupdate) (.deliver hpending hme)

/-- Applying a batch is a step that loads it and then the two that publish. -/
theorem steps_apply (client : Client α) (hme : me ∈ client.listeners.toList) {thread : Nat}
    (hthread : thread ∈ threads) (hidle : thread ∉ state.pending.map (·.1)) (batch : Batch)
    (provenance : Provenance) :
    Steps threads me call { state with resolver := client.resolver }
      { state with
        resolver := (client.apply batch provenance).client.resolver
        held := (client.apply batch provenance).notified.foldl
          (fun map (listener, change) => (call listener change map).state) state.held
        published := state.published ++ [(client.resolver.load batch provenance).update.2]
        delivered := state.delivered ++ [(client.resolver.load batch provenance).update.2] } := by
  obtain ⟨hresolver, hnotified⟩ := client.apply_publishes batch provenance
  have hload : Step threads me call { state with resolver := client.resolver } _ :=
    .load (.load batch provenance) (by simp)
  rw [hresolver, hnotified]
  exact .head hload
    (steps_publish { client with resolver := client.resolver.load batch provenance }
      hme hthread hidle)

/-! ## What the steps keep -/

/-- What is known of the listener and of what it will still be told. -/
structure Tracks (threads : Set Nat) (state : Broadcast) : Prop where
  rows : Resolver.Holds Config.HasRows state.resolver
  held_eq : state.held = Change.replay .empty state.delivered.flatten
  view : ∀ key,
    Same ((Change.replay .empty state.published.flatten).get? key) (state.resolver.view.get? key)
  perm : state.published.Perm (state.delivered ++ state.pending.map (·.2))
  publishers : ∀ thread ∈ state.pending.map (·.1), thread ∈ threads
  idle : (state.pending.map (·.1)).Nodup
  /-- One thread delivers in the order of its updates. -/
  in_order : threads.Subsingleton → state.published = state.delivered ++ state.pending.map (·.2)

namespace Tracks

theorem load (h : Tracks threads state) {action : Action} (hload : action ≠ .update) :
    Tracks threads { state with resolver := state.resolver.act action } := by
  constructor
  case rows => exact h.rows.act action fun _ _ hrows => hrows
  case view =>
    intro key
    rw [Resolver.view_act hload]
    exact h.view key
  case held_eq => exact h.held_eq
  case perm => exact h.perm
  case publishers => exact h.publishers
  case idle => exact h.idle
  case in_order => exact h.in_order

theorem update (h : Tracks threads state) {thread : Nat} {changes : List Change}
    (hthread : thread ∈ threads) (hidle : thread ∉ state.pending.map (·.1))
    (htold : changes.Perm state.resolver.update.2) :
    Tracks threads
      { state with
        resolver := state.resolver.act .update
        pending := state.pending ++ [(thread, changes)]
        published := state.published ++ [changes] } := by
  constructor
  case rows => exact h.rows.act .update fun _ _ hrows => hrows
  case held_eq => exact h.held_eq
  case view =>
    have hbetween := Resolver.update_changes h.rows ▸ htold
    rw [List.flatten_append, Change.replay_append, List.flatten_singleton]
    exact Change.same_replay hbetween h.view
  case perm =>
    rw [List.map_append, ← List.append_assoc]
    exact h.perm.append_right [changes]
  case publishers =>
    intro other hother
    rw [List.map_append, List.mem_append] at hother
    rcases hother with hother | hother
    · exact h.publishers other hother
    · rw [List.mem_singleton.mp hother]
      exact hthread
  case idle =>
    rw [List.map_append, List.map_singleton, List.nodup_append]
    refine ⟨h.idle, List.pairwise_singleton _ thread, ?_⟩
    rintro other hother last hlast rfl
    have hthread : other = thread := List.mem_singleton.mp hlast
    exact hidle (hthread ▸ hother)
  case in_order =>
    intro hone
    rw [List.map_append, ← List.append_assoc, ← h.in_order hone]
    rfl

theorem deliver (h : Tracks threads state) (hfollows : Follows me call) {thread : Nat}
    {changes : List Change} {rest : List (Nat × List Change)} {listeners : Listeners α}
    (hpending : state.pending.Perm ((thread, changes) :: rest))
    (hme : me ∈ listeners.toList) :
    Tracks threads
      { state with
        pending := rest
        held := listeners.notify changes call state.held
        delivered := state.delivered ++ [changes] } := by
  have hthreads : (state.pending.map (·.1)).Perm (thread :: rest.map (·.1)) := hpending.map _
  have hidle := List.nodup_cons.mp (hthreads.nodup_iff.mp h.idle)
  have hothers : ∀ other ∈ rest.map (·.1), other ∈ threads := by
    intro other hother
    exact h.publishers other (hthreads.symm.subset (List.mem_cons_of_mem thread hother))
  constructor
  case rows => exact h.rows
  case held_eq =>
    rw [hfollows.notify_eq hme, h.held_eq, List.flatten_append, Change.replay_append,
      List.flatten_singleton]
  case view => exact h.view
  case perm =>
    rw [List.append_assoc]
    exact h.perm.trans ((hpending.map _).append_left state.delivered)
  case publishers => exact hothers
  case idle => exact hidle.2
  case in_order =>
    intro hone
    have hthread : thread ∈ threads :=
      h.publishers thread (hthreads.symm.subset List.mem_cons_self)
    -- another one would be of the same thread
    have hlast : rest = [] := by
      rw [List.eq_nil_iff_forall_not_mem]
      intro other hother
      have hmem : other.1 ∈ rest.map (·.1) := List.mem_map_of_mem hother
      exact hidle.1 (hone (hothers other.1 hmem) hthread ▸ hmem)
    rw [hlast] at hpending ⊢
    rw [h.in_order hone, List.perm_singleton.mp hpending, List.map_nil, List.append_nil]
    rfl

theorem step (h : Tracks threads state) (hfollows : Follows me call)
    (hstep : Step threads me call state next) : Tracks threads next := by
  cases hstep with
  | load action is_load => exact h.load is_load
  | update thread is_publisher is_idle is_told => exact h.update is_publisher is_idle is_told
  | deliver is_pending is_registered => exact h.deliver hfollows is_pending is_registered

theorem steps (h : Tracks threads state) (hfollows : Follows me call)
    (hsteps : Steps threads me call state next) : Tracks threads next := by
  induction hsteps with
  | refl => exact h
  | tail _ hstep ih => exact ih.step hfollows hstep

end Tracks

/-! ## The listener in the end -/

section Session

variable {base top : List (String × Json)} {location location' : String}
  {baseline overrides : KeyMap Element}

def start (baseline overrides : KeyMap Element) (globals : ContextSet) : Broadcast :=
  { resolver := .start baseline overrides globals }

theorem tracks_start (threads : Set Nat)
    (hbaseline : LocalValues.load base location = .ok baseline)
    (hoverrides : LocalValues.load top location' = .ok overrides) (globals : ContextSet) :
    Tracks threads (start baseline overrides globals) := by
  constructor
  case rows => exact Resolver.hasRows_session hbaseline hoverrides globals []
  case held_eq => rfl
  case view => exact fun key => .inl rfl
  case perm => exact .nil
  case publishers => simp [start]
  case idle => exact .nil
  case in_order => exact fun _ => rfl

/-- Once everything is delivered, every list of changes was, once.  The listener holds the
published configuration of a key exactly if the change of that key that was delivered last
leaves what the one published last leaves.  With one publishing thread it does so for every
key. -/
theorem held_same_iff (hbaseline : LocalValues.load base location = .ok baseline)
    (hoverrides : LocalValues.load top location' = .ok overrides) (globals : ContextSet)
    (hfollows : Follows me call)
    (hsteps : Steps threads me call (start baseline overrides globals) state)
    (hdone : state.pending = []) :
    state.delivered.Perm state.published ∧
    (∀ key, Same (state.held.get? key) (state.resolver.view.get? key) ↔
      Same (Change.newest? state.delivered.flatten key)
        (Change.newest? state.published.flatten key)) ∧
    (threads.Subsingleton →
      ∀ key, Same (state.held.get? key) (state.resolver.view.get? key)) := by
  have htracks : Tracks threads state :=
    (tracks_start threads hbaseline hoverrides globals).steps hfollows hsteps
  have hheld : ∀ key, state.held.get? key = Change.newest? state.delivered.flatten key := by
    intro key
    rw [htracks.held_eq, Change.get?_replay_empty]
  have hview : ∀ key, Same (Change.newest? state.published.flatten key)
      (state.resolver.view.get? key) := by
    intro key
    rw [← Change.get?_replay_empty]
    exact htracks.view key
  have hsame : ∀ key, Same (state.held.get? key) (state.resolver.view.get? key) ↔
      Same (Change.newest? state.delivered.flatten key)
        (Change.newest? state.published.flatten key) := by
    intro key
    rw [hheld]
    exact ⟨fun h => h.trans (hview key).symm, fun h => h.trans (hview key)⟩
  refine ⟨?_, hsame, ?_⟩
  · have hperm := htracks.perm
    rw [hdone, List.map_nil, List.append_nil] at hperm
    exact hperm.symm
  · intro hone key
    have horder := htracks.in_order hone
    rw [hdone, List.map_nil, List.append_nil] at horder
    rw [hsame, horder]
    exact .inl rfl

end Session

/-! ## Two threads -/

def following (_ : Unit) (change : Change) (map : KeyMap Config) : CallOutcome (KeyMap Config) :=
  .returned (change.apply map)

theorem follows_following : Follows () following :=
  ⟨fun _ _ => rfl, fun _ _ _ h => absurd rfl h⟩

def onlyFollower : Listeners Unit := (({} : Listeners Unit).add ()).1

/-- A local limit, and a newer one that is delivered. -/
def limited : Resolver := .start Resolver.limits .empty .empty

def raise : Action := .load ⟨none, [.ok (.constant "limit" 5 (.int 5))], none⟩ ⟨.streaming, none⟩

def raised : Resolver := (limited.act .update).act raise

/-- One thread has published the local limit and another one the newer limit. -/
def waiting : Broadcast :=
  { resolver := raised.act .update
    pending := [(1, limited.update.2), (0, raised.update.2)]
    published := [limited.update.2, raised.update.2] }

theorem steps_waiting :
    Steps {0, 1} () following (start Resolver.limits .empty .empty) waiting := by
  have hlimited : Steps {0, 1} () following (start Resolver.limits .empty .empty) _ :=
    .single (.update 1 (by simp) (by simp [start]) (List.Perm.refl _))
  have hraise := hlimited.tail (.load raise (by simp [raise]))
  exact hraise.tail (.update 0 (by simp) (by simp [start]) (List.Perm.refl _))

/-- Both have delivered, in the order of their updates. -/
def inTurn : Broadcast :=
  { waiting with
    pending := []
    held := onlyFollower.notify raised.update.2 following
      (onlyFollower.notify limited.update.2 following .empty)
    delivered := [limited.update.2, raised.update.2] }

/-- Both have delivered, the newer limit first. -/
def overtaken : Broadcast :=
  { waiting with
    pending := []
    held := onlyFollower.notify limited.update.2 following
      (onlyFollower.notify raised.update.2 following .empty)
    delivered := [raised.update.2, limited.update.2] }

theorem registered_onlyFollower : () ∈ onlyFollower.toList := by
  simp [onlyFollower, Listeners.add, Listeners.toList]

theorem held_same_in_turn :
    inTurn.delivered.Perm inTurn.published ∧
      ∀ key, Same (inTurn.held.get? key) (inTurn.resolver.view.get? key) := by
  have hbaseline : LocalValues.load [("limit", .int 3)] "baseline" = .ok Resolver.limits := rfl
  have hoverrides : LocalValues.load [] "overrides" = .ok .empty := rfl
  have hfirst : Steps {0, 1} () following (start Resolver.limits .empty .empty) _ :=
    steps_waiting.tail (.deliver (List.Perm.refl _) registered_onlyFollower)
  have hboth : Steps {0, 1} () following (start Resolver.limits .empty .empty) inTurn :=
    hfirst.tail (.deliver (List.Perm.refl _) registered_onlyFollower)
  -- what is delivered is what was published, in the same order
  obtain ⟨hperm, hsame, -⟩ := held_same_iff hbaseline hoverrides .empty follows_following hboth rfl
  refine ⟨hperm, ?_⟩
  intro key
  rw [hsame]
  exact .inl rfl

/-- The listener is left with the limit that was replaced. -/
theorem late_delivery_keeps_old :
    LocalValues.load [("limit", .int 3)] "baseline" = .ok Resolver.limits ∧
    Steps {0, 1} () following (start Resolver.limits .empty .empty) overtaken ∧
    overtaken.pending = [] ∧
    overtaken.held.get? "limit" = some (.constant "limit" 0 (.int 3)) ∧
    overtaken.resolver.view.get? "limit" = some (.constant "limit" 5 (.int 5)) ∧
    ¬ Same (overtaken.held.get? "limit") (overtaken.resolver.view.get? "limit") := by
  have hfirst : Steps {0, 1} () following (start Resolver.limits .empty .empty) _ :=
    steps_waiting.tail (.deliver (.swap _ _ _) registered_onlyFollower)
  have hboth : Steps {0, 1} () following (start Resolver.limits .empty .empty) overtaken :=
    hfirst.tail (.deliver (List.Perm.refl _) registered_onlyFollower)
  have hheld : overtaken.held.get? "limit" = some (.constant "limit" 0 (.int 3)) := rfl
  have hview : overtaken.resolver.view.get? "limit" = some (.constant "limit" 5 (.int 5)) := rfl
  refine ⟨rfl, hboth, rfl, hheld, hview, ?_⟩
  rw [hheld, hview]
  rintro (h | h)
  · cases h
  · revert h
    decide

end Broadcast

end LiveConfig
