import LiveConfig.Change
import LiveConfig.Loader

/-!
# The published snapshot

A resolver answers from the snapshot that was published last.  Loading changes the
layers only; an update publishes them and tells what changed.
-/

namespace LiveConfig

structure Resolver where
  loader : Loader
  published : Option Snapshot := none
  deriving Inhabited

namespace Resolver

/-- The snapshot to read from, empty before the first update. -/
def snapshot (resolver : Resolver) : Snapshot := resolver.published.getD .empty

def isLoaded (resolver : Resolver) : Bool := resolver.published.isSome

def highwater (resolver : Resolver) : Int := resolver.loader.highwater

def load (resolver : Resolver) (batch : Batch) (provenance : Provenance) : Resolver :=
  { resolver with loader := resolver.loader.load batch provenance }

def loadFile (resolver : Resolver) (path : String) (content : Option (List UInt8)) :
    Except Error Resolver :=
  (resolver.loader.loadFile path content).map fun loader => { resolver with loader }

/-- Publishes the layers as they are, and the changes since the last snapshot. -/
def update (resolver : Resolver) : Resolver × List Change :=
  let next := resolver.loader.snapshot
  let changes :=
    Change.between (Snapshot.configMap resolver.snapshot.configs) (Snapshot.configMap next.configs)
  ({ resolver with published := some next }, changes)

def keys (resolver : Resolver) : List String := resolver.snapshot.keys

/-- The layers of context over those of the published snapshot. -/
def contextFor (resolver : Resolver) (ambient explicit : ContextSet) : ContextSet :=
  resolver.snapshot.contextFor ambient explicit

/-- The match for a key in the published snapshot. -/
def match? (resolver : Resolver) (env : Environment) (context : ContextSet) (key : String) :
    Option Match :=
  resolver.snapshot.match? env context key

end Resolver
end LiveConfig
