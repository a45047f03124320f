import LiveConfig.Config.Wire
import LiveConfig.Error

/-!
# Layers of local values

A layer is a nested JSON object.  Its leaves become configurations under their
paths joined by dots, where a member `_` below the top level stands for its parent.
An object with a member `feature_flag` is a leaf: a feature flag with a value and
criteria.
-/

namespace LiveConfig
namespace LocalValues

/-- The member that makes an object a feature flag. -/
def flagMember : String := "feature_flag"

/-- The member that holds the value of its parent. -/
def parentMember : String := "_"

def childKey (key member : String) : String :=
  if member = parentMember then key else key ++ "." ++ member

def isFlag (members : List (String × Json)) : Bool := (members.lookup flagMember).isSome

def criterion (key : String) (members : List (String × Json)) : Except LocalFault Criterion := do
  let some operator := members.lookup "operator" | throw .missingOperator
  let some op := operator.toDocument.plainChoice?.bind Operator.ofName?
    | throw (.unknownOperator operator)
  let property : Option String ←
    match members.lookup "property" with
    | some (.str property) => pure (some property)
    | some _ => throw .propertyNotText
    | none => if op.readsProperty then throw .missingProperty else pure none
  let some values := members.lookup "values" | throw .missingValues
  let target ← Value.ofLocal key values
  return ⟨property, op, some target⟩

/-- The criteria of a flag: one object, or the objects of a list. -/
def criteria (key : String) : Option Json → Except LocalFault (List Criterion)
  | none | some .null => .ok []
  | some (.obj members) => (criterion key members).map fun c => [c]
  | some (.arr items) =>
    let objects := items.filterMap fun
      | .obj members => some members
      | _ => none
    objects.mapM (criterion key)
  | some _ => .error .criteriaShape

def flag (key : String) (members : List (String × Json)) : Except LocalFault Config := do
  let some value := members.lookup "value" | throw .flagWithoutValue
  let value ← Value.ofLocal key value
  let criteria ← criteria key (members.lookup "criteria")
  return { id := 0, key, rows := [⟨none, [⟨criteria, .value value⟩]⟩],
           kind := .featureFlag, valueType := value.type }

/-- A leaf of a layer under its key: a feature flag, or any JSON that is no object. -/
inductive Leaf
  | flag (members : List (String × Json))
  | plain (value : Json)

mutual

/-- The leaves below a value, in order, with their keys. -/
def leaves (key : String) : Json → List (String × Leaf)
  | .obj members =>
    if isFlag members then [(key, .flag members)] else memberLeaves key members
  | value => [(key, .plain value)]

def memberLeaves (key : String) : List (String × Json) → List (String × Leaf)
  | [] => []
  | (member, value) :: rest =>
    leaves (childKey key member) value ++ memberLeaves key rest

end

def Leaf.config (key : String) : Leaf → Except LocalFault Config
  | .flag members => LocalValues.flag key members
  | .plain value => (Value.ofLocal key value).map (Config.constant key 0)

/-- The leaves of a whole layer; its own members are named as they are. -/
def layerLeaves (members : List (String × Json)) : List (String × Leaf) :=
  members.flatMap fun (key, value) => leaves key value

/-- The configurations of a layer by their keys; of two with one key the later counts. -/
def load (members : List (String × Json)) (location : String) :
    Except Error (KeyMap Element) :=
  let provenance : Provenance := ⟨.localOnly, some location⟩
  let step (map : KeyMap Element) (leaf : String × Leaf) : Except Error (KeyMap Element) :=
    match leaf.2.config leaf.1 with
    | .ok config => .ok (map.insert leaf.1 ⟨config, provenance⟩)
    | .error fault => .error (.invalidLocalValue leaf.1 fault)
  (layerLeaves members).foldlM step .empty

end LocalValues
end LiveConfig
