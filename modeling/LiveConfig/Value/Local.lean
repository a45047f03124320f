import LiveConfig.Text.Quoted
import LiveConfig.Value

/-!
# Values supplied by the program

A local value is plain JSON whose kind decides the type of the value.  Keys that
begin with `log-level` take the names of log levels where others take any string.
-/

namespace LiveConfig

/-- Why a local value is refused. -/
inductive LocalFault
  | notALogLevel (text : String)
  | itemNotText
  | null
  | flagWithoutValue
  | criteriaShape
  | missingOperator
  | unknownOperator (operator : Json)
  | propertyNotText
  | missingProperty
  | missingValues
  deriving Inhabited

def LocalFault.message : LocalFault → String
  | notALogLevel text => Text.quoted text ++ " is not a log level"
  | itemNotText => "lists may only contain strings"
  | null => "null is not a value"
  | flagWithoutValue => "feature flag must have a 'value' set"
  | criteriaShape => "'criteria' must be an object or a list"
  | missingOperator => "each criterion must have an 'operator' set"
  | unknownOperator operator => "unknown operator " ++ operator.render
  | propertyNotText => "'property' must be a string"
  | missingProperty => "each criterion with a property operator must have a 'property' set"
  | missingValues => "each criterion must have 'values' set"

namespace Value

/-- Whether the string values of a key name log levels. -/
def holdsLogLevels (key : String) : Bool := "log-level".toList.isPrefixOf key.toList

/-- The value that a JSON value denotes under a key. -/
def ofLocal (key : String) : Json → Except LocalFault Value
  | .bool b => .ok (bool b)
  | .int i =>
    if isInt64 i then .ok (int (Int64.ofInt i)) else .ok (double (Double.ofInt i))
  | .float d => .ok (double d)
  | .str s =>
    if holdsLogLevels key then
      match LogLevel.ofText? s with
      | some level => .ok (logLevel level)
      | none => .error (.notALogLevel s)
    else .ok (string s)
  | .arr items =>
    match items.mapM Json.str? with
    | some texts => .ok (stringList texts)
    | none => .error .itemNotText
  | .obj members => .ok (json (.obj members))
  | .null => .error .null

end Value
end LiveConfig
