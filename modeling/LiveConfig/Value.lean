import LiveConfig.Duration
import LiveConfig.Json.Document
import LiveConfig.Json.Printer
import LiveConfig.LogLevel

/-!
# Configuration values

A value has one of eight types.  The scalar ones have a text that criteria compare
(`Value.matchText?`), and text can be coerced back to a declared type
(`ValueType.coerce?`).
-/

namespace LiveConfig

inductive ValueType
  | bool
  | int
  | double
  | string
  | stringList
  | duration
  | logLevel
  | json
  deriving DecidableEq, Inhabited

namespace ValueType

def all : List ValueType := [bool, int, double, string, stringList, duration, logLevel, json]

/-- The name under which configurations declare the type. -/
def name : ValueType → String
  | bool => "BOOL"
  | int => "INT"
  | double => "DOUBLE"
  | string => "STRING"
  | stringList => "STRING_LIST"
  | duration => "DURATION"
  | logLevel => "LOG_LEVEL"
  | json => "JSON"

def ofName? (name : String) : Option ValueType := all.find? (·.name == name)

/-- The name of the type in a fingerprint. -/
def label (type : ValueType) : String := Text.asciiLower type.name

end ValueType

/-- A resolved value.  The value of a `json` is normal. -/
inductive Value
  | bool (value : Bool)
  | int (value : Int64)
  | double (value : Double)
  | string (value : String)
  | stringList (items : List String)
  | duration (duration : Duration)
  | logLevel (level : LogLevel)
  | json (value : Json)
  deriving Inhabited

namespace Value

/-- Equality of values: of one type, doubles by their number. -/
def beq : Value → Value → Bool
  | bool a, bool b => a == b
  | int a, int b => a == b
  | double a, double b => a.eq b
  | string a, string b => a == b
  | stringList a, stringList b => a == b
  | duration a, duration b => a == b
  | logLevel a, logLevel b => a == b
  | json a, json b => a == b
  | _, _ => false

instance : BEq Value := ⟨beq⟩

def type : Value → ValueType
  | bool _ => .bool
  | int _ => .int
  | double _ => .double
  | string _ => .string
  | stringList _ => .stringList
  | duration _ => .duration
  | logLevel _ => .logLevel
  | json _ => .json

def bool? : Value → Option Bool
  | bool b => some b
  | _ => none

def string? : Value → Option String
  | string s => some s
  | _ => none

/-- The text of a scalar value that criteria compare; lists and JSON have none. -/
def matchText? : Value → Option String
  | bool b => some (if b then "true" else "false")
  | int i => some (toString i.toInt)
  | double d => some d.toText
  | string s => some s
  | duration d => some (toString d.millis)
  | logLevel level => some level.name
  | stringList _ => none
  | json _ => none

def fingerprintBody : Value → String
  | bool b => if b then "true" else "false"
  | int i => toString i.toInt
  | double d => d.toText
  | string s => Json.quote s
  | stringList items => (Json.arr (items.map .str)).render
  | duration d => toString d.millis
  | logLevel level => level.name
  | json value => value.render

/-- Whether the value, if it is a duration, is a whole number of milliseconds. -/
def IsWhole : Value → Prop
  | duration d => d.IsWhole
  | _ => True

/-- A stable text of the value, with its type. -/
def fingerprint (value : Value) : String := value.type.label ++ ": " ++ value.fingerprintBody

end Value

/-- Reads text, such as an environment variable, as a value of the type. -/
def ValueType.coerce? (type : ValueType) (raw : String) : Option Value :=
  let trimmed := Text.trimChars raw.toList
  match type with
  | .bool =>
    match Text.asciiLower (String.ofList trimmed) with
    | "true" => some (.bool true)
    | "false" => some (.bool false)
    | _ => none
  | .int => (int64OfText? trimmed).map .int
  | .double => (Double.ofText? trimmed).map .double
  | .string => some (.string raw)
  | .stringList =>
    let items := (Text.splitChars ',' raw.toList).map Text.trimChars
    some (.stringList ((items.filter (· ≠ [])).map String.ofList))
  | .duration => (uint64OfText? trimmed).map fun ms => .duration (.ofMillis ms)
  | .logLevel => (LogLevel.ofText? raw).map .logLevel
  | .json => (Json.parse? raw).map .json

end LiveConfig
