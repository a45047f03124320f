import LiveConfig.Client
import LiveConfig.Proofs.Attempts
import LiveConfig.Proofs.Highwater

/-!
# Where streams resume

A request for a stream names the highest id of its sink.  Where the sink keeps what it is
given in a layer of configurations (`Sink.Backed`), this is the greatest of 0 and the ids
of all the batches that were applied before, those included that changed nothing or that
removed a key (`Sync.stream_resumes_after_applied`).  For an id that is ignored is below a
stored one, and no stored one is above the highest (`Delivered.Marks`).
-/

namespace LiveConfig

/-! ## Sinks that keep what they are given -/

namespace Sink

variable {σ : Type} {sink : Sink σ} {delivered : σ → Delivered}

/-- Whether a sink keeps its batches in a layer of configurations. -/
structure Backed (sink : Sink σ) (delivered : σ → Delivered) : Prop where
  highwater : ∀ s, sink.highwater s = (delivered s).highwater
  apply : ∀ s batch provenance,
    delivered (sink.apply s batch provenance) = (delivered s).load batch provenance

theorem Backed.applyAll (h : sink.Backed delivered) (s : σ) (history : History) :
    delivered (sink.applyAll s history) = (delivered s).loadAll history := by
  induction history generalizing s with
  | nil => rfl
  | cons delivery rest ih =>
      have hrest := ih (sink.apply s delivery.1 delivery.2)
      rw [h.apply] at hrest
      exact hrest

end Sink

theorem Loader.sink_backed : Loader.sink.Backed Loader.delivered :=
  ⟨fun _ => rfl, fun _ _ _ => rfl⟩

/-- A client as the sink of the run that keeps it up to date. -/
def Client.sink {α : Type} : Sink (Client α) where
  highwater := Client.highwater
  apply client batch provenance := (client.apply batch provenance).client

theorem Client.sink_backed {α : Type} :
    (Client.sink (α := α)).Backed fun client => client.resolver.loader.delivered := by
  refine ⟨fun client => rfl, fun client batch provenance => ?_⟩
  unfold Client.sink Client.apply
  dsimp only
  split <;> rfl

/-! ## The requests of a run -/

/-- Whether a request asks for what comes after an id. -/
def Http.Request.ResumesAfter (request : Http.Request) (cursor : Int) : Prop :=
  request.headers.lookup "Last-Event-ID" = some (toString cursor)

theorem Http.Settings.streamRequest_resumesAfter (settings : Http.Settings) (url : Url)
    (highwater : Int) : (settings.streamRequest url highwater).ResumesAfter highwater := rfl

namespace SyncEvent

variable {σ : Type} {sink : Sink σ}

/-- The batches that are applied in the course of events. -/
def applied : List SyncEvent → History
  | [] => []
  | .apply batch provenance :: rest => (batch, provenance) :: applied rest
  | .request _ :: rest => applied rest
  | .wait _ :: rest => applied rest
  | .fail _ :: rest => applied rest

/-- Every request for a stream resumes after the highest id that the sink then has. -/
def Resumes (sink : Sink σ) : σ → List SyncEvent → Prop
  | _, [] => True
  | s, .apply batch provenance :: rest => Resumes sink (sink.apply s batch provenance) rest
  | s, .request asked :: rest =>
    (asked.kind = .stream → asked.ResumesAfter (sink.highwater s)) ∧ Resumes sink s rest
  | s, .wait _ :: rest => Resumes sink s rest
  | s, .fail _ :: rest => Resumes sink s rest

theorem applied_append (first second : List SyncEvent) :
    applied (first ++ second) = applied first ++ applied second := by
  induction first with
  | nil => rfl
  | cons event rest ih =>
      cases event with
      | apply batch provenance => exact congrArg _ ih
      | request request => exact ih
      | wait milliseconds => exact ih
      | fail error => exact ih

theorem resumes_append {s : σ} {first second : List SyncEvent} :
    Resumes sink s (first ++ second) ↔
      Resumes sink s first ∧ Resumes sink (sink.applyAll s (applied first)) second := by
  induction first generalizing s with
  | nil => exact (true_and _).symm ▸ Iff.rfl
  | cons event rest ih =>
      cases event with
      | apply batch provenance => exact ih
      | request request => exact (and_congr_right fun _ => ih).trans and_assoc.symm
      | wait milliseconds => exact ih
      | fail error => exact ih

theorem applied_deliveries (history : History) : applied (history.map ofDelivery) = history := by
  induction history with
  | nil => rfl
  | cons delivery rest ih => exact congrArg _ ih

theorem applied_requests (requests : List Http.Request) : applied (requests.map .request) = [] := by
  induction requests with
  | nil => rfl
  | cons request rest ih => exact ih

theorem resumes_requests {s : σ} {requests : List Http.Request}
    (h : ∀ request ∈ requests, request.kind = .stream →
      request.ResumesAfter (sink.highwater s)) :
    Resumes sink s (requests.map .request) := by
  induction requests with
  | nil => trivial
  | cons request rest ih =>
      rw [List.forall_mem_cons] at h
      exact ⟨h.1, ih h.2⟩

theorem resumes_of_asks_nothing {s : σ} {events : List SyncEvent}
    (h : ∀ event ∈ events, event.kind? = none) : Resumes sink s events := by
  induction events generalizing s with
  | nil => trivial
  | cons event rest ih =>
      rw [List.forall_mem_cons] at h
      cases event with
      | request request => cases h.1
      | apply batch provenance => exact ih h.2
      | wait milliseconds => exact ih h.2
      | fail error => exact ih h.2

end SyncEvent

namespace Sync

variable {σ : Type} {sync : Sync σ} {state : SyncState σ}

theorem resumesAfter_of_mem_requests {request : Http.Request}
    (hrequest : request ∈ sync.requests state) (hkind : request.kind = .stream) :
    request.ResumesAfter (sync.sink.highwater state.sink) := by
  have hphase := sync.requests_kind state request hrequest
  unfold requests at hrequest
  cases h : state.phase with
  | fetching =>
      rw [h, hkind] at hphase
      cases hphase
  | streaming =>
      rw [h] at hrequest
      obtain ⟨url, rfl⟩ := (Http.Settings.openFrom_failover _ _ _ _ _ _ _).exists_url hrequest
      exact Http.Settings.streamRequest_resumesAfter _ _ _

theorem Ends.applied_eq_nil {ending : List SyncEvent} {next : Option (SyncState σ)}
    (h : sync.Ends state ending next) : SyncEvent.applied ending = [] := by
  cases h <;> rfl

theorem applied_step (sync : Sync σ) (state : SyncState σ) :
    SyncEvent.applied (sync.step state).events = sync.deliveries state := by
  obtain ⟨ending, hevents, hends⟩ := sync.step_ends state
  rw [hevents, SyncEvent.applied_append, SyncEvent.applied_append, SyncEvent.applied_requests,
    SyncEvent.applied_deliveries, hends.applied_eq_nil, List.append_nil, List.nil_append]

/-- The requests of an attempt come before its batches. -/
theorem resumes_step (sync : Sync σ) (state : SyncState σ) :
    SyncEvent.Resumes sync.sink state.sink (sync.step state).events := by
  obtain ⟨ending, hevents, hends⟩ := sync.step_ends state
  rw [hevents, SyncEvent.resumes_append]
  refine ⟨SyncEvent.resumes_requests fun _ => resumesAfter_of_mem_requests,
    SyncEvent.resumes_of_asks_nothing ?_⟩
  intro event hevent
  rcases List.mem_append.mp hevent with hdelivery | hending
  · obtain ⟨delivery, -, rfl⟩ := List.mem_map.mp hdelivery
    rfl
  · exact hends.asks_nothing event hending

theorem resumes_run (sync : Sync σ) (n : Nat) (state : SyncState σ) :
    SyncEvent.Resumes sync.sink state.sink (sync.run n state) := by
  induction n generalizing state with
  | zero => trivial
  | succ n ih =>
      rw [run, SyncEvent.resumes_append]
      refine ⟨sync.resumes_step state, ?_⟩
      cases hnext : (sync.step state).next with
      | none => trivial
      | some next =>
          rw [applied_step, ← (follows_of_next hnext).sink]
          exact ih next

/-- The id that a request for a stream in a run resumes after. -/
theorem resumes_after_greatest {delivered : σ → Delivered} (hbacked : sync.sink.Backed delivered)
    {s : σ} {earlier : History} (hstart : delivered s = .ofHistory earlier) {n : Nat}
    {before after : List SyncEvent} {request : Http.Request}
    (hrun : sync.run n (sync.start s) = before ++ .request request :: after)
    (hkind : request.kind = .stream) :
    ∃ cursor, request.ResumesAfter cursor ∧
      IsGreatest (earlier ++ SyncEvent.applied before : History).ids cursor := by
  have hresumes := sync.resumes_run n (sync.start s)
  rw [hrun, SyncEvent.resumes_append] at hresumes
  refine ⟨_, hresumes.2.1 hkind, ?_⟩
  have hlayer : delivered (sync.sink.applyAll s (SyncEvent.applied before)) =
      .ofHistory (earlier ++ SyncEvent.applied before) := by
    rw [hbacked.applyAll, hstart]
    exact (Delivered.loadAll_append {} earlier (SyncEvent.applied before)).symm
  rw [hbacked.highwater]
  exact hlayer ▸ (Delivered.marks_ofHistory _).greatest

/-- In a run over a sink that keeps what it is given, a request for a stream resumes after
the greatest of 0 and the ids that were applied before it.  So the requests for streams
resume after ids that never decrease. -/
theorem stream_resumes_after_applied (sync : Sync σ) {delivered : σ → Delivered}
    (hbacked : sync.sink.Backed delivered) (earlier : History) {s : σ}
    (hstart : delivered s = .ofHistory earlier) (n : Nat) {before after : List SyncEvent}
    {request : Http.Request}
    (hrun : sync.run n (sync.start s) = before ++ .request request :: after)
    (hkind : request.kind = .stream) :
    ∃ cursor, request.ResumesAfter cursor ∧
      IsGreatest (earlier ++ SyncEvent.applied before : History).ids cursor ∧
      ∀ previous between other, before = previous ++ .request other :: between →
        other.kind = .stream → ∃ cursor', other.ResumesAfter cursor' ∧ cursor' ≤ cursor := by
  obtain ⟨cursor, hcursor, hgreatest⟩ := resumes_after_greatest hbacked hstart hrun hkind
  refine ⟨cursor, hcursor, hgreatest, ?_⟩
  rintro previous between other rfl hother
  rw [List.append_assoc] at hrun
  obtain ⟨cursor', hcursor', hgreatest'⟩ := resumes_after_greatest hbacked hstart hrun hother
  refine ⟨cursor', hcursor', hgreatest'.mono hgreatest ?_⟩
  rw [SyncEvent.applied_append, ← List.append_assoc]
  exact History.ids_subset_append _ _

/-- A run whose fetch brings a removal with an id, and a configuration with a lower one. -/
def fetchesRemoval : Sync Loader where
  http := .twoHosts
  backoff := {}
  sink := Loader.sink
  surroundings :=
    { fetches := fun _ => .answer ⟨200, [], Utf8.encode
        "\x7b\"configs\":[\x7b\"id\":7,\"key\":\"a\"\x7d,\x7b\"id\":3,\"key\":\"b\"\x7d]\x7d"⟩
      streams := fun _ => .timeout
      clock := fun _ => .still 0 }

theorem stream_resumes_after_removal :
    ∃ before request after, fetchesRemoval.run 2 (fetchesRemoval.start noLoads) =
        before ++ .request request :: after ∧
      request.kind = .stream ∧ request.ResumesAfter 7 := by
  have hkind : ((fetchesRemoval.run 2 (fetchesRemoval.start noLoads))[2]?).bind SyncEvent.kind? =
      some .stream := by
    decide +kernel
  have hids : (SyncEvent.applied
        ((fetchesRemoval.run 2 (fetchesRemoval.start noLoads)).take 2)).elements.map
        (·.config.id) = [7, 3] := by
    decide +kernel
  generalize hevents : fetchesRemoval.run 2 (fetchesRemoval.start noLoads) = events at hkind hids
  obtain ⟨event, hevent, hstream⟩ := Option.bind_eq_some_iff.mp hkind
  cases event with
  | request request =>
      obtain ⟨hlength, hget⟩ := List.getElem?_eq_some_iff.mp hevent
      have hsplit : events = events.take 2 ++ .request request :: events.drop 3 := by
        rw [← hget, ← List.drop_eq_getElem_cons, List.take_append_drop]
      obtain ⟨cursor, hcursor, hgreatest, -⟩ := fetchesRemoval.stream_resumes_after_applied
        Loader.sink_backed [] (s := noLoads) rfl 2 (hevents.trans hsplit)
        (Option.some.inj hstream)
      have hmem : ∀ id, id ∈ History.ids ([] ++ SyncEvent.applied (events.take 2)) ↔
          id = 0 ∨ id = 7 ∨ id = 3 := by
        intro id
        rw [List.nil_append, History.ids, Set.mem_ofPred_eq, ← List.mem_map, hids]
        simp
      have hatLeast : 7 ≤ cursor := hgreatest.2 ((hmem 7).mpr (.inr (.inl rfl)))
      obtain rfl : cursor = 7 := by
        rcases (hmem cursor).mp hgreatest.1 with rfl | rfl | rfl <;> omega
      exact ⟨_, request, _, hsplit, Option.some.inj hstream, hcursor⟩
  | apply batch provenance => cases hstream
  | wait duration => cases hstream
  | fail error => cases hstream

end Sync
end LiveConfig
