import LiveConfig.Context
import LiveConfig.Value.Wire

/-!
# The wire form of contexts
-/

namespace LiveConfig

namespace Context

def ofDocument? (document : Document) : Option Context := do
  match ← document.fields? ["type", "values"] with
  | [name, values] =>
    let name ← Document.required Document.text? name
    let properties ←
      Document.defaulted KeyMap.empty (Document.map? Value.ofDocument?) values
    return ⟨name, properties⟩
  | _ => none

def toJson (context : Context) : Json :=
  .obj [("type", .str context.name),
    ("values", .obj (context.properties.entries.map fun e => (e.1, e.2.toJson)))]

def isWritable (context : Context) : Bool :=
  context.properties.entries.all fun e => e.2.isWritable

end Context

namespace ContextSet

def ofDocument? (document : Document) : Option ContextSet := do
  match ← document.fields? ["contexts"] with
  | [contexts] =>
    let contexts ← Document.defaulted [] (Document.list? Context.ofDocument?) contexts
    return ofList contexts
  | _ => none

def toJson (set : ContextSet) : Json :=
  .obj [("contexts", .arr (set.toList.map Context.toJson))]

/-- The text of the set, if all its values can be written. -/
def write? (set : ContextSet) : Option String :=
  if set.toList.all Context.isWritable then some set.toJson.render else none

end ContextSet
end LiveConfig
