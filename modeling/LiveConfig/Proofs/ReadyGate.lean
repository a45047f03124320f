import LiveConfig.Proofs.ConcurrentDelivery
import LiveConfig.Proofs.SnapshotReads

/-!
# The gate of a client

A client is set going with its gate unset or open.  Then batches are applied, the run that
follows the server fails, and callers wait and read, in any order.  The first of these events
that decides the gate decides it for good (`Client.gate_afterAll`), and the gate is open only
if everything that was applied is published (`Client.UpToDate`).  So no read that passes the
gate meets a client without a snapshot, and a batch is published whatever became of the gate
(`Client.gate_orderly`).
-/

namespace LiveConfig

theorem Loader.get?_snapshot_loadAll (loader : Loader) (history : History) (key : String) :
    (loader.loadAll history).snapshot.configs.get? key =
      (loader.overrides.get? key).or
        (((history.deliveries key).foldl Delivered.supersede
          (loader.delivered.configs.get? key)).or (loader.baseline.get? key)) := by
  rw [← Delivered.get?_loadAll, snapshot, KeyMap.get?_overlay, KeyMap.get?_overlay]
  rfl

namespace Client

variable {α : Type}

/-- What happens to a client, one after another.  Whoever waits or reads while the gate is
unset waits until the time has run out. -/
inductive Event
  | apply (batch : Batch) (provenance : Provenance)
  | fail (error : Error)
  | wait
  | match? (key : String) (explicit : ContextSet)
  | get? (key : String) (explicit : ContextSet)
  | isOn (key : String) (explicit : ContextSet)
  | getAll (explicit : ContextSet)
  | keys

def after (client : Client α) : Event → Client α
  | .apply batch provenance => (client.apply batch provenance).client
  | .fail error => client.fail error
  | .wait => client.awaitReady.client
  | .match? key explicit => (client.match? key explicit).client
  | .get? key explicit => (client.get? key explicit).client
  | .isOn key explicit => (client.isOn key explicit).client
  | .getAll explicit => (client.getAll explicit).client
  | .keys => client.keys.client

def afterAll (client : Client α) (events : List Event) : Client α := events.foldl after client

namespace Event

/-- How an event decides a gate that is unset. -/
def decision? (onTimeout : OnTimeout) : Event → Option (Except Error Unit)
  | apply _ _ => some (.ok ())
  | fail error => some (.error error)
  | _ =>
    match onTimeout with
    | .raise => none
    | .unlock => some (.ok ())

def delivery? : Event → Option (Batch × Provenance)
  | apply batch provenance => some (batch, provenance)
  | _ => none

def history (events : List Event) : History := events.filterMap delivery?

end Event

def UpToDate (client : Client α) : Prop :=
  client.resolver.published = some client.resolver.loader.snapshot

/-! ## One event -/

theorem client_read (client : Client α) (run : Client α → List Resolution × β) :
    (client.read run).client = client.awaitReady.client := by
  unfold read
  dsimp only
  split <;> rfl

theorem after_cases (client : Client α) (event : Event) :
    (∃ batch provenance, event = .apply batch provenance) ∨ (∃ error, event = .fail error) ∨
      client.after event = client.awaitReady.client ∧ event.delivery? = none ∧
        ∀ onTimeout, event.decision? onTimeout = Event.decision? onTimeout .wait := by
  cases event with
  | apply batch provenance => exact .inl ⟨batch, provenance, rfl⟩
  | fail error => exact .inr (.inl ⟨error, rfl⟩)
  | wait => exact .inr (.inr ⟨rfl, rfl, fun _ => rfl⟩)
  | match? key explicit => exact .inr (.inr ⟨client.client_read _, rfl, fun _ => rfl⟩)
  | get? key explicit =>
      have hread : (client.match? key explicit).client = _ := client.client_read _
      exact .inr (.inr ⟨hread, rfl, fun _ => rfl⟩)
  | isOn key explicit =>
      have hread : (client.match? key explicit).client = _ := client.client_read _
      exact .inr (.inr ⟨hread, rfl, fun _ => rfl⟩)
  | getAll explicit => exact .inr (.inr ⟨client.client_read _, rfl, fun _ => rfl⟩)
  | keys => exact .inr (.inr ⟨client.client_read _, rfl, fun _ => rfl⟩)

/-- A wait leaves the client as it is, or publishes and opens the gate. -/
theorem awaitReady_cases (client : Client α) :
    client.awaitReady.client = client ∧
        (client.gate.isSome = true ∨ client.onTimeout = .raise) ∨
      client.awaitReady.client = client.finish.client ∧ client.gate = none ∧
        client.onTimeout = .unlock := by
  unfold awaitReady
  cases hgate : client.gate with
  | some outcome => exact .inl ⟨rfl, .inl rfl⟩
  | none =>
      cases htimeout : client.onTimeout with
      | raise => exact .inl ⟨rfl, .inr rfl⟩
      | unlock => exact .inr ⟨rfl, rfl, rfl⟩

theorem gate_after (client : Client α) (event : Event) :
    (client.after event).gate = client.gate.or (event.decision? client.onTimeout) := by
  rcases client.after_cases event with
    ⟨batch, provenance, rfl⟩ | ⟨error, rfl⟩ | ⟨hawait, -, hdecision⟩
  · simp only [after, apply, Event.decision?]
    cases hgate : client.gate with
    | none => simp [finish, publish, settle]
    | some outcome => simp [publish]
  · rfl
  · rw [hawait, hdecision]
    rcases client.awaitReady_cases with ⟨hsame, hgate | hraise⟩ | ⟨hfinish, hgate, hunlock⟩
    · rw [hsame, Option.or_of_isSome hgate]
    · rw [hsame, hraise]
      simp [Event.decision?]
    · rw [hfinish, hunlock]
      rfl

theorem onTimeout_after (client : Client α) (event : Event) :
    (client.after event).onTimeout = client.onTimeout := by
  rcases client.after_cases event with
    ⟨batch, provenance, rfl⟩ | ⟨error, rfl⟩ | ⟨hawait, -, -⟩
  · simp only [after, apply]
    split <;> rfl
  · rfl
  · rw [hawait]
    rcases client.awaitReady_cases with ⟨hsame, -⟩ | ⟨hfinish, -, -⟩
    · rw [hsame]
    · rw [hfinish]
      rfl

theorem loader_after (client : Client α) (event : Event) :
    (client.after event).resolver.loader =
      event.delivery?.elim client.resolver.loader fun delivery =>
        client.resolver.loader.load delivery.1 delivery.2 := by
  rcases client.after_cases event with
    ⟨batch, provenance, rfl⟩ | ⟨error, rfl⟩ | ⟨hawait, hdelivery, -⟩
  · have hresolver := (client.apply_publishes batch provenance).1
    rw [after, hresolver]
    rfl
  · rfl
  · rw [hawait, hdelivery]
    rcases client.awaitReady_cases with ⟨hsame, -⟩ | ⟨hfinish, -, -⟩
    · rw [hsame]
      rfl
    · rw [hfinish]
      rfl

theorem upToDate_apply (client : Client α) (batch : Batch) (provenance : Provenance) :
    (client.apply batch provenance).client.UpToDate := by
  unfold UpToDate
  rw [(client.apply_publishes batch provenance).1]
  rfl

/-- An event that opens the gate publishes first, and one that finds it open loads nothing
without publishing. -/
theorem upToDate_after {client : Client α} (h : client.gate = some (.ok ()) → client.UpToDate)
    (event : Event) (hopen : (client.after event).gate = some (.ok ())) :
    (client.after event).UpToDate := by
  rcases client.after_cases event with
    ⟨batch, provenance, rfl⟩ | ⟨error, rfl⟩ | ⟨hawait, -, -⟩
  · exact client.upToDate_apply batch provenance
  · have hgate : client.gate = some (.ok ()) := by
      rw [gate_after] at hopen
      cases hgate : client.gate with
      | none => simp [hgate, Event.decision?] at hopen
      | some outcome => simpa [hgate] using hopen
    exact h hgate
  · rw [hawait] at hopen ⊢
    rcases client.awaitReady_cases with ⟨hsame, -⟩ | ⟨hfinish, -, -⟩
    · rw [hsame] at hopen ⊢
      exact h hopen
    · rw [hfinish]
      rfl

/-! ## Any number of events -/

theorem gate_afterAll (client : Client α) (events : List Event) :
    (client.afterAll events).gate =
      client.gate.or (events.findSome? (Event.decision? client.onTimeout)) := by
  induction events generalizing client with
  | nil => simp [afterAll]
  | cons event rest ih =>
      have hrest := ih (client.after event)
      rw [gate_after, onTimeout_after] at hrest
      have hall : client.afterAll (event :: rest) = (client.after event).afterAll rest := rfl
      rw [hall, hrest, List.findSome?_cons, Option.or_assoc]
      cases event.decision? client.onTimeout with
      | none => rw [Option.none_or]
      | some outcome => rw [Option.some_or]

theorem loader_afterAll (client : Client α) (events : List Event) :
    (client.afterAll events).resolver.loader =
      client.resolver.loader.loadAll (Event.history events) := by
  induction events generalizing client with
  | nil => rfl
  | cons event rest ih =>
      have hall : client.afterAll (event :: rest) = (client.after event).afterAll rest := rfl
      rw [hall, ih, loader_after]
      cases hdelivery : event.delivery? with
      | none =>
          have hhistory : Event.history (event :: rest) = Event.history rest :=
            List.filterMap_cons_none hdelivery
          rw [hhistory, Option.elim_none]
      | some delivery =>
          have hhistory : Event.history (event :: rest) = delivery :: Event.history rest :=
            List.filterMap_cons_some hdelivery
          rw [hhistory, Option.elim_some]
          rfl

theorem upToDate_afterAll {client : Client α}
    (h : client.gate = some (.ok ()) → client.UpToDate) (events : List Event)
    (hopen : (client.afterAll events).gate = some (.ok ())) :
    (client.afterAll events).UpToDate := by
  induction events generalizing client with
  | nil => exact h hopen
  | cons event rest ih => exact ih (upToDate_after h event) hopen

/-! ## Reads -/

theorem gate_of_awaitReady {client : Client α} (h : client.awaitReady.result = .ok ()) :
    client.awaitReady.client.gate = some (.ok ()) := by
  unfold awaitReady at h ⊢
  cases hgate : client.gate with
  | some outcome =>
      rw [hgate] at h
      have houtcome : outcome = .ok () := h
      exact hgate.trans (congrArg some houtcome)
  | none =>
      simp only [hgate] at h ⊢
      cases htimeout : client.onTimeout with
      | raise => simp [htimeout] at h
      | unlock => simp [finish, publish, settle, hgate]

theorem of_result_read {client : Client α} {run : Client α → List Resolution × β} {result : β}
    (h : (client.read run).result = .ok result) :
    client.awaitReady.client.gate = some (.ok ()) ∧
      result = (run client.awaitReady.client).2 := by
  unfold read at h
  dsimp only at h
  split at h
  · cases h
  · rename_i hready
    refine ⟨gate_of_awaitReady hready, ?_⟩
    simpa using h.symm

/-! ## A client from its creation on -/

theorem upToDate_create {settings : ClientSettings} {listeners : List α}
    {call : Call α (Option Http.Settings)} (h : create settings listeners = .ok call)
    (hopen : call.client.gate = some (.ok ())) : call.client.UpToDate := by
  unfold create at h
  obtain ⟨baseline, -, h⟩ := exists_of_bind_eq_ok h
  obtain ⟨overrides, -, h⟩ := exists_of_bind_eq_ok h
  split at h
  · cases h
    rfl
  · obtain ⟨resolver, -, h⟩ := exists_of_bind_eq_ok h
    cases h
    rfl
  · obtain ⟨http, -, h⟩ := exists_of_bind_eq_ok h
    cases h
    cases hopen

/-- What holds of a client after events. -/
structure Orderly (start : Client α) (events : List Event) (client : Client α) : Prop where
  /-- The gate is as it was set first, and stays so. -/
  decided : client.gate =
    start.gate.or (events.findSome? (Event.decision? start.onTimeout))
  kept : ∀ later, client.gate ≠ none → (client.afterAll later).gate = client.gate
  /-- An open gate stands before a snapshot with everything that was applied. -/
  published : client.gate = some (.ok ()) → client.resolver.published =
    some (start.resolver.loader.loadAll (Event.history events)).snapshot
  admitted : ∀ {β : Type} (run : Client α → List Resolution × β) (result : β),
    (client.read run).result = .ok result →
      result = (run (client.read run).client).2 ∧
      (client.read run).client.resolver.published =
        some (start.resolver.loader.loadAll (Event.history events)).snapshot
  unfailing : client.gate = some (.ok ()) → ∀ error, client.fail error = client ∧
    ∀ key explicit, ((client.fail error).match? key explicit).result =
      .ok ((start.resolver.loader.loadAll (Event.history events)).snapshot.answer
        ⟨key, client.ambient, explicit, client.environment⟩)
  /-- A batch is published, and opens a gate that is unset. -/
  applied : ∀ batch provenance,
    (client.gate = none → (client.apply batch provenance).client.gate = some (.ok ())) ∧
    ∃ snapshot, (client.apply batch provenance).client.resolver.published = some snapshot ∧
      snapshot = (start.resolver.loader.loadAll
        (Event.history events ++ [(batch, provenance)])).snapshot ∧
      ∀ key, snapshot.configs.get? key =
        (start.resolver.loader.overrides.get? key).or
          ((((Event.history events ++ [(batch, provenance)]).deliveries key).foldl
            Delivered.supersede (start.resolver.loader.delivered.configs.get? key)).or
            (start.resolver.loader.baseline.get? key))

theorem fail_of_set (client : Client α) {outcome : Except Error Unit}
    (h : client.gate = some outcome) (error : Error) : client.fail error = client := by
  have hgate : client.gate.or (some (.error error)) = client.gate := by rw [h, Option.some_or]
  unfold fail settle
  rw [hgate]

theorem loader_awaitReady (client : Client α) :
    client.awaitReady.client.resolver.loader = client.resolver.loader :=
  client.loader_after .wait

/-- After all events on a created client. -/
theorem gate_orderly {settings : ClientSettings} {listeners : List α}
    {call : Call α (Option Http.Settings)} (h : create settings listeners = .ok call)
    (events : List Event) : Orderly call.client events (call.client.afterAll events) := by
  have hstart := upToDate_create h
  have hloader := call.client.loader_afterAll events
  have hcurrent := upToDate_afterAll hstart events
  generalize hclient : call.client.afterAll events = client at *
  have hgate : client.gate =
      call.client.gate.or (events.findSome? (Event.decision? call.client.onTimeout)) := by
    rw [← hclient, gate_afterAll]
  have hpublished : client.gate = some (.ok ()) → client.resolver.published =
      some (call.client.resolver.loader.loadAll (Event.history events)).snapshot := by
    intro hopen
    rw [hcurrent hopen, hloader]
  constructor
  case decided => exact hgate
  case kept =>
    intro later hset
    rw [gate_afterAll]
    cases hgate : client.gate with
    | none => exact absurd hgate hset
    | some outcome => rfl
  case published => exact hpublished
  case admitted =>
    intro β run result hresult
    obtain ⟨hopen, hresult⟩ := of_result_read hresult
    rw [client_read]
    refine ⟨hresult, ?_⟩
    have hwait : client.awaitReady.client.UpToDate := upToDate_after hcurrent .wait hopen
    rw [hwait, loader_awaitReady, hloader]
  case unfailing =>
    intro hopen error
    rw [client.fail_of_set hopen]
    refine ⟨rfl, ?_⟩
    intro key explicit
    rw [result_match? hopen, Resolver.snapshot, hpublished hopen, Option.getD_some]
  case applied =>
    intro batch provenance
    constructor
    · intro hunset
      have hafter := client.gate_after (.apply batch provenance)
      rw [hunset] at hafter
      exact hafter
    · have hcurrent := client.upToDate_apply batch provenance
      have hload : (client.apply batch provenance).client.resolver.loader =
          client.resolver.loader.load batch provenance :=
        client.loader_after (.apply batch provenance)
      have hall := (call.client.resolver.loader.loadAll_concat (Event.history events)
        (batch, provenance)).symm
      refine ⟨_, hcurrent, by rw [hload, hloader, hall], ?_⟩
      intro key
      rw [hload, hloader, hall, Loader.get?_snapshot_loadAll]

/-- A remote client that goes on with a local limit when a wait runs out. -/
def hasty : ClientSettings where
  sdkKey := "key"
  apiHosts := []
  streamHosts := []
  onTimeout := .unlock
  baseline := [("limit", .int 3)]

/-- A wait runs out, the run fails, and a batch arrives all the same. -/
def lateBatch : List Event :=
  [.wait, .fail .unauthorized,
    .apply ⟨none, [.ok (.constant "limit" 5 (.int 5))], none⟩ ⟨.streaming, none⟩]

theorem gate_orderly_late_batch :
    ∃ call : Call Unit (Option Http.Settings), create hasty [] = .ok call ∧
      call.client.gate = none ∧ (call.client.afterAll lateBatch).gate = some (.ok ()) ∧
      ∃ snapshot, (call.client.afterAll lateBatch).resolver.published = some snapshot ∧
        snapshot.configs.get? "limit" =
          some ⟨.constant "limit" 5 (.int 5), ⟨.streaming, none⟩⟩ := by
  have hcreate : create hasty ([] : List Unit) = .ok _ := rfl
  have horderly := gate_orderly hcreate lateBatch
  have hopen := horderly.decided.trans rfl
  refine ⟨_, hcreate, rfl, hopen, _, horderly.published hopen, ?_⟩
  rfl

end Client
end LiveConfig
