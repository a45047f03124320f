import LiveConfig.Unicode.Case
import LiveConfig.Value

/-!
# Evaluation contexts

A context is a named set of properties that describes a part of what a value is
resolved for.  A context set holds one context for each name up to case, in the
order of the lower-cased names.  Criteria see the set through qualified property
names (`ContextSet.qualified`), and the layers of an evaluation are merged with
the later ones on top (`ContextSet.layered`).
-/

namespace LiveConfig

structure Context where
  name : String
  properties : KeyMap Value
  deriving Inhabited

namespace Context

def empty (name : String) : Context := ⟨name, .empty⟩

instance : BEq Context := ⟨fun a b => a.name == b.name && a.properties == b.properties⟩

/-- Sets a property. -/
def set (context : Context) (property : String) (value : Value) : Context :=
  { context with properties := context.properties.insert property value }

def get? (context : Context) (property : String) : Option Value :=
  context.properties.get? property

/-- Lays the properties of `upper` over those of `lower`, which keeps its name. -/
def overlay (lower upper : Context) : Context :=
  { lower with properties := lower.properties.overlay upper.properties }

/-- The name under which a property is looked up: with the name of its context
before it, unless that is blank. -/
def qualify (context : Context) (property : String) : String :=
  if Text.trimChars context.name.toList = [] then property
  else context.name ++ "." ++ property

/-- The property that identifies the subject of a context. -/
def keyProperty : String := "key"

end Context

/-- Contexts by their lower-cased names. -/
structure ContextSet where
  contexts : KeyMap Context
  deriving Inhabited

namespace ContextSet

def empty : ContextSet := ⟨.empty⟩

instance : BEq ContextSet := ⟨fun a b => a.contexts == b.contexts⟩

/-- Adds a context in place of one with the same name up to case. -/
def add (set : ContextSet) (context : Context) : ContextSet :=
  ⟨set.contexts.insert (Unicode.lower context.name) context⟩

def ofList (contexts : List Context) : ContextSet := contexts.foldl add empty

/-- The contexts in the order of their lower-cased names. -/
def toList (set : ContextSet) : List Context := set.contexts.values

def size (set : ContextSet) : Nat := set.contexts.size

def isEmpty (set : ContextSet) : Bool := set.contexts.isEmpty

def get? (set : ContextSet) (name : String) : Option Context :=
  set.contexts.get? (Unicode.lower name)

/-- Lays one context, by its lower-cased name, over the set. -/
def mergeEntry (set : ContextSet) (entry : String × Context) : ContextSet :=
  match set.contexts.get? entry.1 with
  | some existing => ⟨set.contexts.insert entry.1 (existing.overlay entry.2)⟩
  | none => ⟨set.contexts.insert entry.1 entry.2⟩

/-- Lays every context of `upper` over the set, property by property. -/
def merge (set upper : ContextSet) : ContextSet :=
  upper.contexts.entries.foldl mergeEntry set

/-- The key properties of the contexts that have one, each after the lower-cased
name of its context. -/
def fingerprint (set : ContextSet) : String :=
  let part (entry : String × Context) : String :=
    match entry.2.get? Context.keyProperty with
    | some value => entry.1 ++ "--" ++ value.fingerprint
    | none => ""
  String.join (set.contexts.entries.map part)

/-- Every property under its qualified name, in the order of contexts and properties. -/
def qualifiedEntries (set : ContextSet) : List (String × Value) :=
  set.toList.flatMap fun context =>
    context.properties.entries.map fun entry => (context.qualify entry.1, entry.2)

/-- The properties by qualified name; of two with one name the later counts. -/
def qualified (set : ContextSet) : KeyMap Value := KeyMap.ofList set.qualifiedEntries

def lookup? (set : ContextSet) (name : String) : Option Value := set.qualified.get? name

/-- The layers of one evaluation: what the server sends along, the settings of the
client, the surroundings of the call, and what the caller gives, on top. -/
def layered (server : Option ContextSet) (globals ambient explicit : ContextSet) : ContextSet :=
  (((server.getD empty).merge globals).merge ambient).merge explicit

end ContextSet
end LiveConfig
