import LiveConfig.Proofs.Base64
import LiveConfig.Proofs.EventStream
import LiveConfig.Sync

/-!
# Delivery of a stream

A subscriber opens a stream and hands on the batches of its events.  Whatever the chunks
are, and wherever the connection breaks, it hands on exactly the batches that the events
before the end carry, once each and in order (`Http.Settings.subscribe_delivers`).

What an event carries is said without the reader: its data is the Base64 text of bytes
that are not all blank and that are the JSON of a batch with a service pointer
(`Stream.Event.Carries`).  The reader and the chunks come in through
`Stream.eventsOf_eq`, by induction on the chunks with the invariant that no whole line is
pending.
-/

namespace LiveConfig
namespace Stream

/-! ## What events carry -/

/-- The batch is what the data of the event is the text of. -/
structure Event.Carries (event : Event) (batch : Batch) : Prop where
  content : ∃ bytes, Text.trim event.data = Base64.encode bytes ∧
    ¬ (∀ b ∈ bytes, isAsciiBlank b = true) ∧ Batch.parse? bytes = some batch
  pointer : batch.pointer ≠ none

theorem batchOfData?_eq_some_iff (event : Event) (batch : Batch) :
    batchOfData? event.data = some batch ↔ event.Carries batch := by
  have hbytes : batchOfData? event.data = some batch ↔
      ∃ bytes, Text.trim event.data = Base64.encode bytes ∧
        ¬ (∀ b ∈ bytes, isAsciiBlank b = true) ∧
          ∃ read, Batch.parse? bytes = some read ∧ read.pointer ≠ none ∧ read = batch := by
    unfold batchOfData?
    simp only [Option.bind_eq_bind, Option.bind_eq_some_iff, Base64.decode?_eq_some_iff]
    apply exists_congr
    intro bytes
    by_cases hblank : bytes.all isAsciiBlank = true
    · have hall := List.all_eq_true.mp hblank
      rw [if_pos hblank]
      exact iff_of_false (by simp) fun h => h.2.1 hall
    · rw [if_neg hblank]
      rw [List.all_eq_true] at hblank
      simp [hblank, Option.bind_eq_some_iff, Option.ne_none_iff_exists']
  rw [hbytes]
  constructor
  · rintro ⟨bytes, htext, hblank, read, hparse, hpointer, rfl⟩
    exact ⟨⟨bytes, htext, hblank, hparse⟩, hpointer⟩
  · rintro ⟨⟨bytes, htext, hblank, hparse⟩, hpointer⟩
    exact ⟨bytes, htext, hblank, batch, hparse, hpointer, rfl⟩

/-- The batches that are handed on for events: that of each event that carries one, in
the order of the events. -/
inductive Forwards : List Event → List Batch → Prop
  | nil : Forwards [] []
  | carried {event : Event} {batch : Batch} {events : List Event} {batches : List Batch}
      (hcarries : event.Carries batch) (hrest : Forwards events batches) :
      Forwards (event :: events) (batch :: batches)
  | skipped {event : Event} {events : List Event} {batches : List Batch}
      (hnone : ∀ batch, ¬ event.Carries batch) (hrest : Forwards events batches) :
      Forwards (event :: events) batches

theorem forwards_filterMap (events : List Event) :
    Forwards events (events.filterMap fun event => batchOfData? event.data) := by
  induction events with
  | nil => exact .nil
  | cons event rest ih =>
      cases hdata : batchOfData? event.data with
      | none =>
          simp only [List.filterMap_cons, hdata]
          apply Forwards.skipped _ ih
          intro batch hcarries
          rw [(batchOfData?_eq_some_iff event batch).mpr hcarries] at hdata
          cases hdata
      | some batch =>
          simp only [List.filterMap_cons, hdata]
          exact .carried ((batchOfData?_eq_some_iff event batch).mp hdata) ih

theorem Forwards.eq_filterMap {events : List Event} {batches : List Batch}
    (h : Forwards events batches) :
    batches = events.filterMap fun event => batchOfData? event.data := by
  induction h with
  | nil => rfl
  | carried hcarries _ ih =>
      simp only [List.filterMap_cons, (batchOfData?_eq_some_iff _ _).mpr hcarries, ih]
  | @skipped event events batches hnone _ ih =>
      have hdata : batchOfData? event.data = none := by
        rw [Option.eq_none_iff_forall_ne_some]
        intro batch hbatch
        exact hnone batch ((batchOfData?_eq_some_iff event batch).mp hbatch)
      simp only [List.filterMap_cons, hdata, ih]

/-! ## Events of chunks -/

/-- The bytes that are received before the end of the stream. -/
def bytesOf : List Chunk → List UInt8
  | [] => []
  | .bytes bytes :: rest => bytes ++ bytesOf rest
  | .broken _ :: _ => []

/-- The text of the break, unless the stream is closed. -/
def breakOf? : List Chunk → Option String
  | [] => none
  | .bytes _ :: rest => breakOf? rest
  | .broken text :: _ => some text

theorem breakOf?_ne_none_iff (chunks : List Chunk) :
    breakOf? chunks ≠ none ↔ ∃ text, .broken text ∈ chunks := by
  induction chunks with
  | nil => simp [breakOf?]
  | cons chunk rest ih =>
      cases chunk with
      | bytes bytes => simpa [breakOf?] using ih
      | broken text => simp [breakOf?]

theorem eventsOf_eq {reader : Reader} (hreader : lineFeed ∉ reader.pending)
    (chunks : List Chunk) :
    eventsOf reader chunks = ((reader.feed (bytesOf chunks)).2, breakOf? chunks) := by
  have hidle : (reader.feed []).2 = [] := by
    rw [Reader.feed, List.append_nil, Reader.drain_of_not_mem hreader]
  induction chunks generalizing reader with
  | nil =>
      rw [bytesOf, hidle]
      rfl
  | cons chunk rest ih =>
      cases chunk with
      | broken text =>
          rw [bytesOf, hidle]
          rfl
      | bytes bytes =>
          have hnext : lineFeed ∉ (reader.feed bytes).1.pending :=
            Reader.not_mem_pending_drain _ _
          have hnextIdle : ((reader.feed bytes).1.feed []).2 = [] := by
            rw [Reader.feed, List.append_nil, Reader.drain_of_not_mem hnext]
          have hrest := ih hnext hnextIdle
          simp only [eventsOf, hrest, bytesOf, breakOf?, Reader.feed_append]

theorem foldl_take (events : List Event) (delivery : Delivery) :
    events.foldl (fun delivery event => delivery.take event.data) delivery =
      { delivery with
        received := delivery.received || !events.isEmpty
        batches := delivery.batches ++ events.filterMap fun event => batchOfData? event.data } := by
  induction events generalizing delivery with
  | nil => simp
  | cons event rest ih =>
      rw [List.foldl_cons, ih, Delivery.take]
      cases hdata : batchOfData? event.data <;> simp [hdata]

theorem deliver_eq (chunks : List Chunk) :
    deliver chunks =
      { received := !(reading (bytesOf chunks)).isEmpty
        batches := (reading (bytesOf chunks)).filterMap fun event => batchOfData? event.data
        broken := breakOf? chunks } := by
  have hevents := eventsOf_eq (show lineFeed ∉ ({} : Reader).pending by simp) chunks
  rw [Reader.feed_eq_reading] at hevents
  rw [deliver, hevents]
  simp only [foldl_take, Bool.false_or, List.nil_append]

end Stream

namespace Http

/-! ## Subscribers -/

/-- What a subscriber has come to when its stream is over. -/
structure Subscription where
  received : Bool
  batches : List Batch
  result : Except Failure Unit

/-- Takes the stream that was opened, to its end. -/
def Subscription.ofOpening : Except Failure StreamAnswer → Subscription
  | .error failure => ⟨false, [], .error failure⟩
  | .ok answer =>
    let delivery := Stream.deliver answer.chunks
    ⟨delivery.received, delivery.batches,
      match delivery.broken with
      | none => .ok ()
      | some text => .error (.error (.io .other text))⟩

/-- Opens the stream of configurations after `highwater`, and takes it to its end. -/
def Settings.subscribe (settings : Settings) (replies : Nat → Reply StreamAnswer) (made : Nat)
    (highwater : Int) (cache : ResponseCache) : Subscription :=
  .ofOpening (settings.openStream replies made highwater cache).result

end Http

namespace Sync

/-- What becomes of a subscription: its batches are applied, and after any event the delay
is the initial one. -/
def settleSubscription (sync : Sync σ) (state : SyncState σ) (subscription : Http.Subscription) :
    SyncStep σ :=
  let state := subscription.batches.foldl (fun state batch => sync.hand state batch streamed) state
  let state := if subscription.received then sync.reset state else state
  let step :=
    match subscription.result with
    | .ok () => sync.pause state
    | .error failure => sync.recover state failure
  step.after (subscription.batches.map fun batch => .apply batch streamed)

/-- A run settles its streams as subscriptions. -/
theorem settleStream_eq (sync : Sync σ) (state : SyncState σ)
    (opening : Except Http.Failure Http.StreamAnswer) :
    sync.settleStream state opening =
      sync.settleSubscription state (.ofOpening opening) := by
  cases opening with
  | error failure => rfl
  | ok answer =>
      simp only [settleStream, settleSubscription, Http.Subscription.ofOpening]
      cases (Stream.deliver answer.chunks).broken with
      | none => rfl
      | some text => rfl

end Sync

namespace Http

theorem ofOpening_ok (answer : StreamAnswer) :
    Subscription.ofOpening (.ok answer) =
      { received := !(Stream.reading (Stream.bytesOf answer.chunks)).isEmpty
        batches := (Stream.reading (Stream.bytesOf answer.chunks)).filterMap fun event =>
          Stream.batchOfData? event.data
        result :=
          match Stream.breakOf? answer.chunks with
          | none => .ok ()
          | some text => .error (.error (.io .other text)) } := by
  simp only [Subscription.ofOpening, Stream.deliver_eq]

theorem exists_error_ofOpening_iff (opening : Except Failure StreamAnswer) :
    (∃ failure, (Subscription.ofOpening opening).result = .error failure) ↔
      (∃ failure, opening = .error failure) ∨
        ∃ answer, opening = .ok answer ∧ ∃ text, .broken text ∈ answer.chunks := by
  cases opening with
  | error failure => simp [Subscription.ofOpening]
  | ok answer =>
      rw [ofOpening_ok]
      have hbreak := Stream.breakOf?_ne_none_iff answer.chunks
      cases hend : Stream.breakOf? answer.chunks with
      | none => simpa [hend] using hbreak
      | some text => simpa [hend] using hbreak

/-- A subscriber hands on the batches of the events that are complete before the end of
the stream, once each and in order, and passes over the other events; it has received
data exactly if there is such an event.  It fails exactly if the stream is not opened or
breaks.  Only the bytes before the end and the kind of the end matter, and not how the
bytes are cut into chunks. -/
theorem Settings.subscribe_delivers (settings : Settings) (replies : Nat → Reply StreamAnswer)
    (made : Nat) (highwater : Int) (cache : ResponseCache) :
    let opening := (settings.openStream replies made highwater cache).result
    let subscription := settings.subscribe replies made highwater cache
    (∀ failure, opening = .error failure → subscription = ⟨false, [], .error failure⟩) ∧
    (∀ answer, opening = .ok answer →
      let events := Stream.reading (Stream.bytesOf answer.chunks)
      (∀ batches, Stream.Forwards events batches ↔ batches = subscription.batches) ∧
      (subscription.received = true ↔ events ≠ []) ∧
      ∀ other : StreamAnswer,
        Stream.bytesOf other.chunks = Stream.bytesOf answer.chunks →
        Stream.breakOf? other.chunks = Stream.breakOf? answer.chunks →
        Subscription.ofOpening (.ok other) = subscription) ∧
    ((∃ failure, subscription.result = .error failure) ↔
      (∃ failure, opening = .error failure) ∨
        ∃ answer, opening = .ok answer ∧ ∃ text, .broken text ∈ answer.chunks) := by
  intro opening subscription
  have hsubscription : subscription = .ofOpening opening := rfl
  refine ⟨?_, ?_, exists_error_ofOpening_iff opening⟩
  · intro failure hopening
    rw [hsubscription, hopening]
    rfl
  · intro answer hopening events
    have hok : subscription = .ofOpening (.ok answer) := by rw [hsubscription, hopening]
    rw [hok]
    refine ⟨?_, ?_, ?_⟩
    · intro batches
      rw [ofOpening_ok]
      constructor
      · intro hforwards
        exact hforwards.eq_filterMap
      · rintro rfl
        exact Stream.forwards_filterMap _
    · rw [ofOpening_ok]
      simp [events]
    · intro other hbytes hbreak
      rw [ofOpening_ok, ofOpening_ok, hbytes, hbreak]

-- the broken Base64 and the empty event are passed over, the unfinished event is lost
example :
    (Stream.deliver
      [.bytes (Utf8.encode "data: eyJjb25maWdTZXJ2aWNlUG9pbnRlciI6e319\n\ndata: eyJ\n\ndata:\n"),
        .bytes (Utf8.encode "\ndata: eyJjb25maWdTZXJ2aWNlUG9pbnRlciI6e319\r\n\ndata: e"),
        .broken "reset", .bytes (Utf8.encode "30=\n\n")]).batches.length = 2 := by
  decide +kernel

end Http
end LiveConfig
