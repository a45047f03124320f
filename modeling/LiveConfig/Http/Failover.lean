import LiveConfig.Config.Wire
import LiveConfig.Error
import LiveConfig.Http.Cache
import LiveConfig.Stream.Frame
import LiveConfig.Url.Parser

/-!
# Requests with failover

A fetch or the opening of a stream goes through the hosts in order until one answer
decides.  What the network answers is a sequence of replies, of which each request
takes the next; a run records the requests that it makes.  The clock is read anew at the
turn of every host and at every reply.
-/

namespace LiveConfig
namespace Http

structure Settings where
  sdkKey : String
  apiHosts : List Url
  streamHosts : List Url
  /-- For a fetch or for the opening of a stream. -/
  requestTimeout : Duration
  cacheCapacity : Nat
  deriving Inhabited

inductive RequestKind
  | fetch
  | stream
  deriving DecidableEq, Inhabited

structure Request where
  kind : RequestKind
  url : Url
  headers : List (String × String)
  timeout : Duration
  deriving Inhabited

/-- What becomes of a request: an answer, or a failure of the connection or of the
transport itself. -/
inductive Reply (α : Type)
  | answer (answer : α)
  | timeout
  | broken (text : String)
  | crash
  deriving Inhabited

structure StreamAnswer where
  status : Nat
  chunks : List Stream.Chunk
  deriving Inhabited

/-- What a fetch reads off the clock, by the number of requests made before: at the turn
of a host, and at the reply to the request that this turn makes. -/
structure Clock where
  turn : Nat → Nat
  reply : Nat → Nat

/-- A clock that always shows one time. -/
def Clock.still (now : Nat) : Clock := ⟨fun _ => now, fun _ => now⟩

/-- Why a run has no result; a crash cannot be recovered from. -/
inductive Failure
  | error (error : Error)
  | crash
  deriving Inhabited

/-- Bodies for a fetch: from the cache or from the network. -/
structure Fetched where
  status : Nat
  fromCache : Bool
  uri : String
  body : List UInt8
  deriving Inhabited

/-- The batch of a body; a body without bytes is none. -/
def Fetched.batch (fetched : Fetched) : Except Error Batch :=
  if fetched.body = [] then .error .zeroByteConfig
  else
    match Batch.parse? fetched.body with
    | some batch => .ok batch
    | none => .error .invalidPayload

/-- The requests that were made, and how it ended. -/
structure Run (α : Type) where
  requests : List Request
  result : Except Failure α
  cache : ResponseCache

def Run.after (request : Request) (run : Run α) : Run α :=
  { run with requests := request :: run.requests }

/-- The URL of a host as it is configured. -/
def parseHost (host : String) : Except Error Url :=
  match Url.ofHost? host with
  | some url => .ok url
  | none => .error (.invalidHostUrl (Text.trim host))

def parseHosts (hosts : List String) : Except Error (List Url) := hosts.mapM parseHost

/-- The URL of an endpoint at a host. -/
def endpoint (host : Url) (path : List String) : Except Error Url :=
  match host.child? path with
  | some url => .ok url
  | none => .error (.invalidHostUrl host.text)

def configsPath (since : Int) : List String := ["api", "v2", "configs", toString since]

def streamPath : List String := ["api", "v2", "sse", "config"]

def isSuccess (status : Nat) : Bool := 200 ≤ status && status < 300

/-- The error after all hosts have failed. -/
def exhausted (attempts : Nat) (last : Option Error) : Error :=
  .hostsExhausted attempts ((last.map Error.message).getD "no hosts configured")

/-- What a reply means for a fetch from one host: it decides the fetch, or the next
host is asked after an error. -/
inductive Verdict
  | decided (result : Except Failure Fetched) (cache : ResponseCache)
  | next (error : Error)

/-- The verdict on a reply that arrives now, with the cache entry that was there when the
request was made. -/
def judge (cache : ResponseCache) (now : Nat) (uri : String) (cached : Option CacheEntry) :
    Reply Response → Verdict
  | .timeout => .next (.requestTimeout uri)
  | .broken text => .next (.io .other text)
  | .crash => .decided (.error .crash) cache
  | .answer response =>
    if response.status = 401 then .decided (.error (.error .unauthorized)) cache
    else if isSuccess response.status then
      match cache.store uri response now with
      | (cache, .ok _) => .decided (.ok ⟨response.status, false, uri, response.body⟩) cache
      | (cache, .error _) => .decided (.error .crash) cache
    else
      match response.status, cached with
      | 304, some entry =>
        match cache.revalidated uri response now with
        | (cache, .ok _) => .decided (.ok ⟨200, true, uri, entry.body⟩) cache
        | (cache, .error _) => .decided (.error .crash) cache
      | status, _ => .next (.unexpectedStatus status uri)

namespace Settings

def authHeaders (settings : Settings) : List (String × String) :=
  let credentials := Base64.encode (Utf8.encode ("authuser:" ++ settings.sdkKey))
  [("Authorization", "Basic " ++ credentials), ("X-Reforge-SDK-Version", "rust-0.1.0")]

def fetchRequest (settings : Settings) (url : Url) (cached : Option CacheEntry) : Request :=
  let condition := (cached.bind (·.etag)).map fun etag => ("If-None-Match", etag)
  ⟨.fetch, url, settings.authHeaders ++ condition.toList, settings.requestTimeout⟩

def streamRequest (settings : Settings) (url : Url) (highwater : Int) : Request :=
  ⟨.stream, url,
    settings.authHeaders ++
      [("Last-Event-ID", toString highwater), ("Accept", "text/event-stream")],
    settings.requestTimeout⟩

/-- Asks the hosts from one on; `made` requests were made before. -/
def fetchFrom (settings : Settings) (replies : Nat → Reply Response) (clock : Clock)
    (since : Int) :
    List Url → Option Error → Nat → ResponseCache → Run Fetched
  | [], last, _, cache =>
    ⟨[], .error (.error (exhausted settings.apiHosts.length last)), cache⟩
  | host :: rest, _, made, cache =>
    match endpoint host (configsPath since) with
    | .error e => ⟨[], .error (.error e), cache⟩
    | .ok url =>
      let uri := url.text
      match cache.get uri with
      | (cache, .error _) => ⟨[], .error .crash, cache⟩
      | (cache, .ok cached) =>
        match cached.filter (·.isFresh (clock.turn made)) with
        | some entry => ⟨[], .ok ⟨200, true, uri, entry.body⟩, cache⟩
        | none =>
          let run : Run Fetched :=
            match judge cache (clock.reply made) uri cached (replies made) with
            | .decided result cache => ⟨[], result, cache⟩
            | .next e => fetchFrom settings replies clock since rest (some e) (made + 1) cache
          run.after (settings.fetchRequest url cached)

/-- Fetches the configurations newer than `since`. -/
def fetch (settings : Settings) (replies : Nat → Reply Response) (made : Nat) (clock : Clock)
    (since : Int) (cache : ResponseCache) : Run Fetched :=
  settings.fetchFrom replies clock since settings.apiHosts none made cache

/-- Opens a stream at the hosts from one on. -/
def openFrom (settings : Settings) (replies : Nat → Reply StreamAnswer) (highwater : Int)
    (cache : ResponseCache) : List Url → Option Error → Nat → Run StreamAnswer
  | [], last, _ => ⟨[], .error (.error (exhausted settings.streamHosts.length last)), cache⟩
  | host :: rest, _, made =>
    match endpoint host streamPath with
    | .error e => ⟨[], .error (.error e), cache⟩
    | .ok url =>
      let run : Run StreamAnswer :=
        match replies made with
        | .crash => ⟨[], .error .crash, cache⟩
        | .timeout =>
          let error := Error.requestTimeout url.text
          openFrom settings replies highwater cache rest (some error) (made + 1)
        | .broken text =>
          openFrom settings replies highwater cache rest (some (.io .other text)) (made + 1)
        | .answer stream =>
          if stream.status = 401 then ⟨[], .error (.error .unauthorized), cache⟩
          else if isSuccess stream.status then ⟨[], .ok stream, cache⟩
          else
            openFrom settings replies highwater cache rest
              (some (.unexpectedStatus stream.status url.text)) (made + 1)
      run.after (settings.streamRequest url highwater)

/-- Opens the stream of configurations after `highwater`. -/
def openStream (settings : Settings) (replies : Nat → Reply StreamAnswer) (made : Nat)
    (highwater : Int) (cache : ResponseCache) : Run StreamAnswer :=
  settings.openFrom replies highwater cache settings.streamHosts none made

end Settings
end Http
end LiveConfig
