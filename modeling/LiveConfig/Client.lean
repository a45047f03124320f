import LiveConfig.Client.Settings
import LiveConfig.Listeners
import LiveConfig.LocalValues
import LiveConfig.Resolver
import LiveConfig.Sync

/-!
# Clients

A client answers from its resolver once its gate is set: opened by the first
configurations or by a wait that ran out, or closed for good by a failure before
them.  Each operation also yields the calls of listeners that it makes, and each
resolution is reported.
-/

namespace LiveConfig

structure Client (α : Type) where
  resolver : Resolver
  listeners : Listeners α
  /-- How the initialization ended. -/
  gate : Option (Except Error Unit) := none
  onTimeout : OnTimeout
  initializationTimeout : Duration
  ambient : ContextSet
  environment : Environment

/-- What a key was found to resolve to in a context. -/
structure Resolution where
  key : String
  found : Option Match
  context : ContextSet
  deriving Inhabited

/-- What an operation leads to. -/
structure Call (α β : Type) where
  client : Client α
  notified : List (α × Change) := []
  resolutions : List Resolution := []
  result : β

namespace Client

/-- Whether the client answers. -/
def isReady (client : Client α) : Bool :=
  match client.gate with
  | some (.ok ()) => true
  | _ => false

def highwater (client : Client α) : Int := client.resolver.highwater

/-- Publishes what is loaded. -/
def publish (client : Client α) : Call α Unit :=
  let (resolver, changes) := client.resolver.update
  { client := { client with resolver }, notified := client.listeners.calls changes, result := () }

/-- Sets the gate unless it is set. -/
def settle (client : Client α) (outcome : Except Error Unit) : Client α :=
  { client with gate := client.gate.or (some outcome) }

/-- Publishes what is loaded, and opens the gate unless it is set. -/
def finish (client : Client α) : Call α Unit :=
  let call := client.publish
  { call with client := call.client.settle (.ok ()) }

/-- Loads a batch and publishes it; the first one opens the gate. -/
def apply (client : Client α) (batch : Batch) (provenance : Provenance) : Call α Unit :=
  let client := { client with resolver := client.resolver.load batch provenance }
  if client.gate.isNone then client.finish else client.publish

/-- Closes the gate unless it is set. -/
def fail (client : Client α) (error : Error) : Client α := client.settle (.error error)

/-- Follows an event of the run that keeps the client up to date. -/
def follow (client : Client α) : SyncEvent → Call α Unit
  | .request _ => { client, result := () }
  | .wait _ => { client, result := () }
  | .apply batch provenance => client.apply batch provenance
  | .fail error => { client := client.fail error, result := () }

/-- Follows events one after another. -/
def followAll (client : Client α) (events : List SyncEvent) : Call α Unit :=
  events.foldl
    (fun call event =>
      let next := call.client.follow event
      { next with notified := call.notified ++ next.notified })
    { client, result := () }

/-- Waits for the gate; an unset one stays so until the wait runs out. -/
def awaitReady (client : Client α) : Call α (Except Error Unit) :=
  match client.gate with
  | some outcome => { client, result := outcome }
  | none =>
    match client.onTimeout with
    | .raise => { client, result := .error (.initializationTimeout client.initializationTimeout) }
    | .unlock => { client.finish with result := .ok () }

/-- The context of a resolution, all layers of context merged. -/
def contextFor (client : Client α) (explicit : ContextSet) : ContextSet :=
  client.resolver.contextFor client.ambient explicit

def resolution (client : Client α) (context : ContextSet) (key : String) : Resolution :=
  ⟨key, client.resolver.match? client.environment context key, context⟩

/-- Reads from a client that is ready. -/
def read (client : Client α) (run : Client α → List Resolution × β) : Call α (Except Error β) :=
  let call := client.awaitReady
  match call.result with
  | .error e => { call with result := .error e }
  | .ok () =>
    let (resolutions, result) := run call.client
    { call with resolutions, result := .ok result }

def match? (client : Client α) (key : String) (explicit : ContextSet) :
    Call α (Except Error (Option Match)) :=
  client.read fun client =>
    let resolution := client.resolution (client.contextFor explicit) key
    ([resolution], resolution.found)

def get? (client : Client α) (key : String) (explicit : ContextSet) :
    Call α (Except Error (Option Value)) :=
  let call := client.match? key explicit
  { call with result := call.result.map fun found => found.map (·.value) }

/-- Whether a flag is on: its value is the boolean true. -/
def isOn (client : Client α) (key : String) (explicit : ContextSet) : Call α (Except Error Bool) :=
  let call := client.get? key explicit
  { call with result := call.result.map fun value => (value.bind Value.bool?).getD false }

/-- The values of all keys that have one. -/
def getAll (client : Client α) (explicit : ContextSet) : Call α (Except Error (KeyMap Value)) :=
  client.read fun client =>
    let context := client.contextFor explicit
    let resolutions := client.resolver.keys.map (client.resolution context)
    let pair (resolution : Resolution) : Option (String × Value) :=
      resolution.found.map fun found => (resolution.key, found.value)
    (resolutions, KeyMap.ofList (resolutions.filterMap pair))

def keys (client : Client α) : Call α (Except Error (List String)) :=
  client.read fun client => ([], client.resolver.keys)

def addListener (client : Client α) (listener : α) : Client α × ListenerId :=
  let (listeners, id) := client.listeners.add listener
  ({ client with listeners }, id)

def removeListener (client : Client α) (id : ListenerId) : Client α × Bool :=
  let (listeners, removed) := client.listeners.remove id
  ({ client with listeners }, removed)

/-- The settings of the requests of a remote client. -/
def httpSettings (settings : ClientSettings) : Except Error Http.Settings := do
  if settings.sdkKey = "" then .error .missingSdkKey
  let apiHosts ← Http.parseHosts settings.apiHosts
  let streamHosts ← Http.parseHosts settings.streamHosts
  return {
    sdkKey := settings.sdkKey
    apiHosts
    streamHosts
    requestTimeout := settings.requestTimeout
    cacheCapacity := settings.cacheCapacity }

/-- A new client.  A remote one also has the settings of its requests. -/
def create (settings : ClientSettings) (listeners : List α) :
    Except Error (Call α (Option Http.Settings)) := do
  let baseline ← LocalValues.load settings.baseline "baseline"
  let overrides ← LocalValues.load settings.overrides "overrides"
  let client : Client α :=
    { resolver := { loader := { baseline, overrides, globals := settings.globals } }
      listeners := ({} : Listeners α).addAll listeners
      onTimeout := settings.onTimeout
      initializationTimeout := settings.initializationTimeout
      ambient := settings.ambient
      environment := settings.environment }
  match settings.source with
  | .localOnly => return { client.finish with result := none }
  | .localFile path content =>
    let resolver ← client.resolver.loadFile path content
    return { ({ client with resolver } : Client α).finish with result := none }
  | .remote => return { client, result := some (← httpSettings settings) }

end Client
end LiveConfig
