import LiveConfig.KeyMap
import LiveConfig.Number.Decimal

/-!
# JSON values

An object is a list of members.  The objects of a *normal* value have their
members in key order, each key once; `Json.normalize` makes a value normal and
keeps the last member of each key.  Numbers are integers of the signed or the
unsigned 64-bit range, or doubles.
-/

namespace LiveConfig

inductive Json
  | null
  | bool (value : Bool)
  | int (value : Int)
  | float (value : Double)
  | str (value : String)
  | arr (items : List Json)
  | obj (members : List (String × Json))
  deriving Inhabited

namespace Json

mutual

/-- Equality of values: members in their order, numbers of one kind by their value. -/
def beq : Json → Json → Bool
  | null, null => true
  | bool a, bool b => a == b
  | int a, int b => a == b
  | float a, float b => a.eq b
  | str a, str b => a == b
  | arr xs, arr ys => beqItems xs ys
  | obj xs, obj ys => beqMembers xs ys
  | _, _ => false

def beqItems : List Json → List Json → Bool
  | [], [] => true
  | x :: xs, y :: ys => beq x y && beqItems xs ys
  | _, _ => false

def beqMembers : List (String × Json) → List (String × Json) → Bool
  | [], [] => true
  | (k, x) :: xs, (l, y) :: ys => k == l && beq x y && beqMembers xs ys
  | _, _ => false

end

instance : BEq Json := ⟨beq⟩

/-- Members in key order, the last of each key. -/
def sortMembers (members : List (String × Json)) : List (String × Json) :=
  (KeyMap.ofList members).entries

mutual

def normalize : Json → Json
  | arr items => arr (normalizeItems items)
  | obj members => obj (sortMembers (normalizeMembers members))
  | value => value

def normalizeItems : List Json → List Json
  | [] => []
  | x :: xs => normalize x :: normalizeItems xs

def normalizeMembers : List (String × Json) → List (String × Json)
  | [] => []
  | (k, x) :: xs => (k, normalize x) :: normalizeMembers xs

end

/-- The member of that name, if the value is an object that has one. -/
def member? : Json → String → Option Json
  | obj members, name => members.lookup name
  | _, _ => none

/-- The integer, if the value is one of the signed 64-bit range. -/
def int64? : Json → Option Int64
  | int i => if isInt64 i then some (Int64.ofInt i) else none
  | _ => none

def str? : Json → Option String
  | str s => some s
  | _ => none

end Json

end LiveConfig
