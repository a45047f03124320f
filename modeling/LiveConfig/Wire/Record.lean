import LiveConfig.Json.Document

/-!
# Reading records from documents

A record is an object whose known members occur at most once and whose unknown
members are ignored, or a list of its fields in their order.  A choice is a text
that names an alternative without content, or an object with one member.
-/

namespace LiveConfig
namespace Document

/-- The fields of a record by their names in order, `none` for one that is missing. -/
def fields? (names : List String) : Document → Option (List (Option Document))
  | obj members =>
    if names.all fun name => members.countP (·.1 == name) ≤ 1 then
      some (names.map fun name => members.lookup name)
    else none
  | arr items =>
    if items.length ≤ names.length then
      some (items.map some ++ List.replicate (names.length - items.length) none)
    else none
  | _ => none

/-- The field of a record that consists of one required member, written as an object. -/
def member? (name : String) : Document → Option Document
  | obj members => if members.countP (·.1 == name) ≤ 1 then members.lookup name else none
  | _ => none

/-- The alternative that a choice names, and its content if it has one. -/
def choice? : Document → Option (String × Option Document)
  | str name => some (name, none)
  | obj [(name, content)] => some (name, some content)
  | _ => none

/-- The alternative of a choice without content. -/
def plainChoice? (document : Document) : Option String :=
  match document.choice? with
  | some (name, none) => some name
  | some (name, some null) => some name
  | _ => none

def bool? : Document → Option Bool
  | bool b => some b
  | _ => none

def text? : Document → Option String
  | str s => some s
  | _ => none

/-- An integer of the signed 64-bit range. -/
def int? : Document → Option Int
  | int i => if isInt64 i then some i else none
  | _ => none

/-- A natural number below the bound. -/
def natBelow? (bound : Nat) : Document → Option Nat
  | int i => if 0 ≤ i ∧ i < bound then some i.toNat else none
  | _ => none

/-- Any number, rounded to a double. -/
def double? : Document → Option Double
  | int i => some (Double.ofInt i)
  | float d => some d
  | _ => none

def list? (read : Document → Option α) : Document → Option (List α)
  | arr items => items.mapM read
  | _ => none

/-- An object as a map; a later member replaces an earlier one of its key. -/
def map? (read : Document → Option α) : Document → Option (KeyMap α)
  | obj members => do
    let entries ← members.mapM fun (key, item) => do return (key, ← read item)
    return KeyMap.ofList entries
  | _ => none

/-- A field that has to be there. -/
def required (read : Document → Option α) : Option Document → Option α
  | some document => read document
  | none => none

/-- A field with a default. -/
def defaulted (default : α) (read : Document → Option α) : Option Document → Option α
  | some document => read document
  | none => some default

/-- A field that may be missing or null. -/
def optional (read : Document → Option α) : Option Document → Option (Option α)
  | some null => some none
  | some document => (read document).map some
  | none => some none

end Document
end LiveConfig
