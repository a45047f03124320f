import LiveConfig.Config.Wire
import LiveConfig.Error
import LiveConfig.Evaluation

/-!
# Loading configurations in layers

Between a fixed baseline and fixed overrides lies the layer that the server
delivers.  There a configuration is accepted unless a version of its key with a
higher id is stored.  An accepted tombstone removes its key.
-/

namespace LiveConfig

/-- What the deliveries so far amount to. -/
structure Delivered where
  configs : KeyMap Element := .empty
  highwater : Int := 0
  environment : Int := 0
  defaultContext : ContextSet := .empty
  deriving Inhabited

namespace Delivered

/-- Whether a stored version of the key is above this one. -/
def isStale (delivered : Delivered) (config : Config) : Bool :=
  (delivered.configs.get? config.key).any fun stored => config.id < stored.config.id

def accept (delivered : Delivered) (provenance : Provenance) (config : Config) : Delivered :=
  if delivered.isStale config then delivered
  else
    { delivered with
      highwater := max delivered.highwater config.id
      configs :=
        if config.isTombstone then delivered.configs.erase config.key
        else delivered.configs.insert config.key ⟨config, provenance⟩ }

/-- Applies a batch; configurations that could not be read are left out. -/
def load (delivered : Delivered) (batch : Batch) (provenance : Provenance) : Delivered :=
  let accepted := batch.readable.foldl (fun d config => d.accept provenance config) delivered
  { accepted with
    environment := (batch.pointer.map (·.environmentId)).getD accepted.environment
    defaultContext := batch.defaultContext.getD accepted.defaultContext }

end Delivered

/-- The layers of configurations. -/
structure Loader where
  baseline : KeyMap Element
  overrides : KeyMap Element
  globals : ContextSet
  delivered : Delivered := {}
  deriving Inhabited

namespace Loader

def load (loader : Loader) (batch : Batch) (provenance : Provenance) : Loader :=
  { loader with delivered := loader.delivered.load batch provenance }

def highwater (loader : Loader) : Int := loader.delivered.highwater

/-- Whether what could not be read in a batch cannot be read on its own either, with
repeated members of an object resolved to the last. -/
def isMalformed : Except Json Config → Bool
  | .ok _ => false
  | .error json => (Config.ofDocument? json.toDocument).isNone

/-- The batch of a snapshot file, unless some configuration of it is malformed. -/
def batchOfFile? (content : List UInt8) : Option Batch := do
  let batch ← Batch.parse? content
  if batch.configs.any isMalformed then none else some batch

/-- Loads a snapshot file; `none` stands for a file that does not exist. -/
def loadFile (loader : Loader) (path : String) (content : Option (List UInt8)) :
    Except Error Loader :=
  match content with
  | none => .error (.io .notFound "No such file or directory (os error 2)")
  | some bytes =>
    match batchOfFile? bytes with
    | none => .error .invalidPayload
    | some batch => .ok (loader.load batch ⟨.localFile, some path⟩)

/-- The layers merged, the overrides on top. -/
def snapshot (loader : Loader) : Snapshot :=
  { configs := (loader.baseline.overlay loader.delivered.configs).overlay loader.overrides
    environment := loader.delivered.environment
    globals := loader.globals
    serverDefault := loader.delivered.defaultContext
    highwater := loader.delivered.highwater }

end Loader
end LiveConfig
