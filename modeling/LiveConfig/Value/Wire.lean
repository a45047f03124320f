import LiveConfig.Value
import LiveConfig.Wire.Record

/-!
# The wire form of values

A value is an object with one member, named for its type.  A duration is written as the
nearest number of milliseconds, if that number has 64 bits.
-/

namespace LiveConfig

def LogLevel.ofDocument? (document : Document) : Option LogLevel :=
  document.plainChoice?.bind LogLevel.ofName?

def ValueType.ofDocument? (document : Document) : Option ValueType :=
  document.plainChoice?.bind ValueType.ofName?

namespace Value

def ofDocument? (document : Document) : Option Value :=
  match document.choice? with
  | some ("bool", some content) => content.bool?.map bool
  | some ("int", some content) => content.int?.map fun i => int (Int64.ofInt i)
  | some ("double", some content) => content.double?.map double
  | some ("string", some content) => content.text?.map string
  | some ("stringList", some content) => (content.list? Document.text?).map stringList
  | some ("duration", some content) =>
    (content.natBelow? 0x10000000000000000).map fun n => duration (.ofMillis (UInt64.ofNat n))
  | some ("logLevel", some content) => (LogLevel.ofDocument? content).map logLevel
  | some ("json", some content) => content.value?.map json
  | _ => none

def toJson : Value → Json
  | bool b => .obj [("bool", .bool b)]
  | int i => .obj [("int", .int i.toInt)]
  | double d => .obj [("double", .float d)]
  | string s => .obj [("string", .str s)]
  | stringList items => .obj [("stringList", .arr (items.map .str))]
  | duration d => .obj [("duration", .int d.wireMillis)]
  | logLevel level => .obj [("logLevel", .str level.name)]
  | json value => .obj [("json", value)]

/-- Whether the value has a wire form. -/
def isWritable : Value → Bool
  | duration d => d.isWritable
  | _ => true

end Value
end LiveConfig
