import LiveConfig.Backoff
import LiveConfig.Http.Failover
import LiveConfig.Loader

/-!
# Keeping up with the server

A run fetches the configurations until that succeeds once, and then opens stream
after stream, each from the highest id that its sink has seen.  It waits after every
attempt but the successful fetch.  It ends with a failure after which no attempt can
succeed, or where the delay before the next attempt cannot be doubled.  A run is the list
of its events: to stop it is to cut the list.
-/

namespace LiveConfig

/-- Where batches go. -/
structure Sink (σ : Type) where
  highwater : σ → Int
  apply : σ → Batch → Provenance → σ

def Loader.sink : Sink Loader := ⟨Loader.highwater, Loader.load⟩

inductive SyncEvent
  | request (request : Http.Request)
  | apply (batch : Batch) (provenance : Provenance)
  | wait (duration : Duration)
  | fail (error : Error)
  deriving Inhabited

def SyncEvent.isRequest : SyncEvent → Bool
  | request _ => true
  | _ => false

/-- Errors that no further attempt can mend. -/
def Error.isFatal : Error → Bool
  | .unauthorized => true
  | .invalidHostUrl _ => true
  | _ => false

/-- What a run meets: the replies to its fetches and to its streams, the random numbers
for its waits, and the clock after a number of waits, each counted from zero. -/
structure Surroundings where
  fetches : Nat → Http.Reply Http.Response
  streams : Nat → Http.Reply Http.StreamAnswer
  draws : Nat → Nat := fun _ => 0
  clock : Nat → Http.Clock

structure Sync (σ : Type) where
  http : Http.Settings
  backoff : Backoff
  sink : Sink σ
  surroundings : Surroundings

inductive SyncPhase
  | fetching
  | streaming
  deriving DecidableEq, Inhabited

/-- A run between two attempts, with the counts of the requests and waits so far. -/
structure SyncState (σ : Type) where
  sink : σ
  phase : SyncPhase := .fetching
  cache : Http.ResponseCache
  delay : Duration
  fetches : Nat := 0
  streams : Nat := 0
  waits : Nat := 0

/-- The events of an attempt, and the state to go on from unless the run has ended. -/
structure SyncStep (σ : Type) where
  events : List SyncEvent
  next : Option (SyncState σ)

def SyncStep.after (step : SyncStep σ) (events : List SyncEvent) : SyncStep σ :=
  { step with events := events ++ step.events }

namespace Sync

def start (sync : Sync σ) (sink : σ) : SyncState σ :=
  { sink
    cache := .ofCapacity sync.http.cacheCapacity
    delay := sync.backoff.initial }

/-- Waits for the next attempt, unless there is no delay for the one after that. -/
def pause (sync : Sync σ) (state : SyncState σ) : SyncStep σ :=
  match sync.backoff.next? state.delay with
  | none => ⟨[.fail .syncPanicked], none⟩
  | some delay =>
    ⟨[.wait (sync.backoff.wait state.delay (sync.surroundings.draws state.waits))],
      some { state with delay, waits := state.waits + 1 }⟩

/-- Ends the run, or waits after an error that another attempt may mend. -/
def recover (sync : Sync σ) (state : SyncState σ) : Http.Failure → SyncStep σ
  | .crash => ⟨[.fail .syncPanicked], none⟩
  | .error e => if e.isFatal then ⟨[.fail e], none⟩ else sync.pause state

/-- Hands a batch to the sink. -/
def hand (sync : Sync σ) (state : SyncState σ) (batch : Batch) (provenance : Provenance) :
    SyncState σ :=
  { state with sink := sync.sink.apply state.sink batch provenance }

/-- Resets the delay to the initial one. -/
def reset (sync : Sync σ) (state : SyncState σ) : SyncState σ :=
  { state with delay := sync.backoff.initial }

/-- What becomes of a fetch: its batch is applied and the streams begin. -/
def settleFetch (sync : Sync σ) (state : SyncState σ) :
    Except Http.Failure Http.Fetched → SyncStep σ
  | .error failure => sync.recover state failure
  | .ok fetched =>
    match fetched.batch with
    | .error e => sync.recover state (.error e)
    | .ok batch =>
      let provenance : Provenance := ⟨.remoteApi, some fetched.uri⟩
      ⟨[.apply batch provenance],
        some { sync.reset (sync.hand state batch provenance) with phase := .streaming }⟩

def fetchStep (sync : Sync σ) (state : SyncState σ) : SyncStep σ :=
  let run := sync.http.fetch sync.surroundings.fetches state.fetches
    (sync.surroundings.clock state.waits) (sync.sink.highwater state.sink) state.cache
  let state :=
    { state with cache := run.cache, fetches := state.fetches + run.requests.length }
  (sync.settleFetch state run.result).after (run.requests.map .request)

/-- Where batches of a stream come from. -/
def streamed : Provenance := ⟨.streaming, none⟩

/-- What becomes of a stream: its batches are applied, and after any event the delay
is the initial one. -/
def settleStream (sync : Sync σ) (state : SyncState σ) :
    Except Http.Failure Http.StreamAnswer → SyncStep σ
  | .error failure => sync.recover state failure
  | .ok answer =>
    let delivery := Stream.deliver answer.chunks
    let state := delivery.batches.foldl (fun state batch => sync.hand state batch streamed) state
    let state := if delivery.received then sync.reset state else state
    (sync.pause state).after (delivery.batches.map fun batch => .apply batch streamed)

def streamStep (sync : Sync σ) (state : SyncState σ) : SyncStep σ :=
  let run := sync.http.openStream sync.surroundings.streams state.streams
    (sync.sink.highwater state.sink) state.cache
  let state := { state with streams := state.streams + run.requests.length }
  (sync.settleStream state run.result).after (run.requests.map .request)

/-- One attempt and what follows it up to the next one. -/
def step (sync : Sync σ) (state : SyncState σ) : SyncStep σ :=
  match state.phase with
  | .fetching => sync.fetchStep state
  | .streaming => sync.streamStep state

/-- The events of at most `attempts` attempts. -/
def run (sync : Sync σ) : (attempts : Nat) → SyncState σ → List SyncEvent
  | 0, _ => []
  | attempts + 1, state =>
    let step := sync.step state
    step.events ++
      match step.next with
      | some next => run sync attempts next
      | none => []

end Sync
end LiveConfig
