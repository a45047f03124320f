import LiveConfig.Config
import LiveConfig.Context.Wire

/-!
# The wire form of configurations

Each type has a reader from documents and a writer to JSON; the members are written
in one order, with null for what is absent.  The three sources of a value are told
apart by their members: `weightedValues`, then `provided`, then a plain value.
A batch can be read where single configurations of it cannot.
-/

namespace LiveConfig

open Document (required defaulted optional)

namespace Criterion

def ofDocument? (document : Document) : Option Criterion := do
  match ← document.fields? ["propertyName", "operator", "valueToMatch"] with
  | [property, operator, target] =>
    let property ← optional Document.text? property
    let operator ← required (fun d => d.plainChoice?.bind Operator.ofName?) operator
    let target ← optional Value.ofDocument? target
    return ⟨property, operator, target⟩
  | _ => none

def toJson (criterion : Criterion) : Json :=
  .obj [("propertyName", (criterion.property.map Json.str).getD .null),
    ("operator", .str criterion.operator.name),
    ("valueToMatch", (criterion.target.map Value.toJson).getD .null)]

end Criterion

namespace WeightedValues

def choiceOfDocument? (document : Document) : Option WeightedValue := do
  match ← document.fields? ["weight", "value"] with
  | [weight, value] =>
    let weight ← required (Document.natBelow? 0x100000000) weight
    let value ← required Value.ofDocument? value
    return ⟨UInt32.ofNat weight, value⟩
  | _ => none

def ofDocument? (document : Document) : Option WeightedValues := do
  match ← document.fields? ["weightedValues", "hashByPropertyName"] with
  | [choices, hashBy] =>
    let choices ← required (Document.list? choiceOfDocument?) choices
    let hashBy ← optional Document.text? hashBy
    return ⟨choices, hashBy⟩
  | _ => none

def choiceToJson (choice : WeightedValue) : Json :=
  .obj [("weight", .int choice.weight.toNat), ("value", choice.value.toJson)]

def toJson (values : WeightedValues) : Json :=
  .obj [("weightedValues", .arr (values.choices.map choiceToJson)),
    ("hashByPropertyName", (values.hashBy.map Json.str).getD .null)]

end WeightedValues

namespace ValueSource

def envVarOfDocument? (document : Document) : Option String := do
  match ← document.fields? ["envVar"] with
  | [envVar] => required Document.text? envVar
  | _ => none

def ofDocument? (document : Document) : Option ValueSource :=
  match (document.member? "weightedValues").bind WeightedValues.ofDocument? with
  | some values => some (weighted values)
  | none =>
    match (document.member? "provided").bind envVarOfDocument? with
    | some envVar => some (provided envVar)
    | none => (Value.ofDocument? document).map value

def toJson : ValueSource → Json
  | value v => v.toJson
  | weighted values => .obj [("weightedValues", values.toJson)]
  | provided envVar => .obj [("provided", .obj [("envVar", .str envVar)])]

end ValueSource

namespace ConditionalValue

def ofDocument? (document : Document) : Option ConditionalValue := do
  match ← document.fields? ["criteria", "value"] with
  | [criteria, source] =>
    let criteria ← defaulted [] (Document.list? Criterion.ofDocument?) criteria
    let source ← required ValueSource.ofDocument? source
    return ⟨criteria, source⟩
  | _ => none

def toJson (value : ConditionalValue) : Json :=
  .obj [("criteria", .arr (value.criteria.map Criterion.toJson)),
    ("value", value.source.toJson)]

end ConditionalValue

namespace Row

def ofDocument? (document : Document) : Option Row := do
  match ← document.fields? ["projectEnvId", "values"] with
  | [environment, values] =>
    let environment ← optional Document.int? environment
    let values ← defaulted [] (Document.list? ConditionalValue.ofDocument?) values
    return ⟨environment, values⟩
  | _ => none

def toJson (row : Row) : Json :=
  .obj [("projectEnvId", (row.environment.map Json.int).getD .null),
    ("values", .arr (row.values.map ConditionalValue.toJson))]

end Row

namespace Config

def kindOfDocument? (document : Document) : Option ConfigKind :=
  document.plainChoice?.bind ConfigKind.ofName?

def ofDocument? (document : Document) : Option Config := do
  match ← document.fields? ["id", "key", "rows", "configType", "valueType"] with
  | [id, key, rows, kind, valueType] =>
    let id ← defaulted 0 Document.int? id
    let key ← required Document.text? key
    let rows ← defaulted [] (Document.list? Row.ofDocument?) rows
    let kind ← defaulted .config kindOfDocument? kind
    let valueType ← optional ValueType.ofDocument? valueType
    return { id, key, rows, kind, valueType }
  | _ => none

def toJson (config : Config) : Json :=
  .obj [("id", .int config.id), ("key", .str config.key),
    ("rows", .arr (config.rows.map Row.toJson)),
    ("configType", .str config.kind.name),
    ("valueType", (config.valueType.map fun type => Json.str type.name).getD .null)]

/-- The text of the configuration, if all its values can be written. -/
def write? (config : Config) : Option String :=
  if config.literals.all Value.isWritable then some config.toJson.render else none

end Config

def Provenance.ofDocument? (document : Document) : Option Provenance := do
  match ← document.fields? ["source", "sourceLocation"] with
  | [source, location] =>
    let source ← required (fun d => d.plainChoice?.bind Source.ofName?) source
    let location ← optional Document.text? location
    return ⟨source, location⟩
  | _ => none

def ServicePointer.ofDocument? (document : Document) : Option ServicePointer := do
  match ← document.fields? ["projectId", "projectEnvId", "highestId"] with
  | [projectId, environmentId, highestId] =>
    let projectId ← defaulted 0 Document.int? projectId
    let environmentId ← defaulted 0 Document.int? environmentId
    let highestId ← defaulted 0 Document.int? highestId
    return { projectId, environmentId, highestId }
  | _ => none

namespace Batch

/-- A configuration of a batch, or the JSON that cannot be read as one. -/
def configOfDocument? (document : Document) : Option (Except Json Config) := do
  let json ← document.value?
  match Config.ofDocument? document with
  | some config => some (.ok config)
  | none => some (.error json)

def ofDocument? (document : Document) : Option Batch := do
  match ← document.fields? ["configServicePointer", "configs", "defaultContext"] with
  | [pointer, configs, defaultContext] =>
    let pointer ← optional ServicePointer.ofDocument? pointer
    let configs ← defaulted [] (Document.list? configOfDocument?) configs
    let defaultContext ← optional ContextSet.ofDocument? defaultContext
    return { pointer, configs, defaultContext }
  | _ => none

/-- The batch of a JSON text in bytes. -/
def parse? (bytes : List UInt8) : Option Batch := (Document.parse? bytes).bind ofDocument?

end Batch
end LiveConfig
