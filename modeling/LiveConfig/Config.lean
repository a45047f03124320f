import LiveConfig.Context

/-!
# Configurations

A configuration gives a key its value by rows of conditional values: the first one
whose criteria all hold applies.  A configuration without rows is a tombstone,
which takes its key away.
-/

namespace LiveConfig

/-- What a criterion checks. -/
inductive Operator
  | alwaysTrue
  | propIsOneOf
  | propIsNotOneOf
  | propStartsWithOneOf
  | propDoesNotStartWithOneOf
  | propEndsWithOneOf
  | propDoesNotEndWithOneOf
  | propContainsOneOf
  | propDoesNotContainOneOf
  | propMatches
  | propDoesNotMatch
  | propGreaterThan
  | propGreaterThanOrEqual
  | propLessThan
  | propLessThanOrEqual
  | propSemverEqual
  | propSemverGreaterThan
  | propSemverLessThan
  | inIntRange
  | inSeg
  | notInSeg
  deriving DecidableEq, Inhabited

namespace Operator

def all : List Operator :=
  [alwaysTrue, propIsOneOf, propIsNotOneOf, propStartsWithOneOf, propDoesNotStartWithOneOf,
    propEndsWithOneOf, propDoesNotEndWithOneOf, propContainsOneOf, propDoesNotContainOneOf,
    propMatches, propDoesNotMatch, propGreaterThan, propGreaterThanOrEqual, propLessThan,
    propLessThanOrEqual, propSemverEqual, propSemverGreaterThan, propSemverLessThan,
    inIntRange, inSeg, notInSeg]

/-- The words of the operator's name. -/
def words : Operator → List String
  | alwaysTrue => ["Always", "True"]
  | propIsOneOf => ["Prop", "Is", "One", "Of"]
  | propIsNotOneOf => ["Prop", "Is", "Not", "One", "Of"]
  | propStartsWithOneOf => ["Prop", "Starts", "With", "One", "Of"]
  | propDoesNotStartWithOneOf => ["Prop", "Does", "Not", "Start", "With", "One", "Of"]
  | propEndsWithOneOf => ["Prop", "Ends", "With", "One", "Of"]
  | propDoesNotEndWithOneOf => ["Prop", "Does", "Not", "End", "With", "One", "Of"]
  | propContainsOneOf => ["Prop", "Contains", "One", "Of"]
  | propDoesNotContainOneOf => ["Prop", "Does", "Not", "Contain", "One", "Of"]
  | propMatches => ["Prop", "Matches"]
  | propDoesNotMatch => ["Prop", "Does", "Not", "Match"]
  | propGreaterThan => ["Prop", "Greater", "Than"]
  | propGreaterThanOrEqual => ["Prop", "Greater", "Than", "Or", "Equal"]
  | propLessThan => ["Prop", "Less", "Than"]
  | propLessThanOrEqual => ["Prop", "Less", "Than", "Or", "Equal"]
  | propSemverEqual => ["Prop", "Semver", "Equal"]
  | propSemverGreaterThan => ["Prop", "Semver", "Greater", "Than"]
  | propSemverLessThan => ["Prop", "Semver", "Less", "Than"]
  | inIntRange => ["In", "Int", "Range"]
  | inSeg => ["In", "Seg"]
  | notInSeg => ["Not", "In", "Seg"]

/-- The name in messages, such as `PropIsOneOf`. -/
def label (op : Operator) : String := String.join op.words

/-- The name in configurations, such as `PROP_IS_ONE_OF`. -/
def name (op : Operator) : String :=
  String.intercalate "_" (op.words.map Text.asciiUpper)

/-- The second accepted name of the operators whose name begins with `PROP`. -/
def longName? (op : Operator) : Option String :=
  match op.words with
  | "Prop" :: rest => some (String.intercalate "_" ("PROPERTY" :: rest.map Text.asciiUpper))
  | _ => none

def ofName? (name : String) : Option Operator :=
  all.find? fun op => op.name == name || op.longName? == some name

/-- Whether the operator looks at a property of the context. -/
def readsProperty : Operator → Bool
  | alwaysTrue | inSeg | notInSeg => false
  | _ => true

end Operator

structure Criterion where
  property : Option String
  operator : Operator
  target : Option Value
  deriving Inhabited, BEq

structure WeightedValue where
  weight : UInt32
  value : Value
  deriving Inhabited, BEq

/-- Values to choose from by weight.  The choice hangs on the property `hashBy` where
the context has it. -/
structure WeightedValues where
  choices : List WeightedValue
  hashBy : Option String
  deriving Inhabited, BEq

/-- Where a conditional value comes from. -/
inductive ValueSource
  | value (value : Value)
  | weighted (values : WeightedValues)
  | provided (envVar : String)
  deriving Inhabited, BEq

/-- The values that the source holds. -/
def ValueSource.literals : ValueSource → List Value
  | value v => [v]
  | weighted values => values.choices.map (·.value)
  | provided _ => []

structure ConditionalValue where
  criteria : List Criterion
  source : ValueSource
  deriving Inhabited, BEq

/-- The values that the conditional value holds, those that its criteria compare with
included. -/
def ConditionalValue.literals (value : ConditionalValue) : List Value :=
  value.criteria.filterMap (·.target) ++ value.source.literals

/-- Conditional values for one environment, or for every one. -/
structure Row where
  environment : Option Int
  values : List ConditionalValue
  deriving Inhabited, BEq

def Row.literals (row : Row) : List Value := row.values.flatMap ConditionalValue.literals

inductive ConfigKind
  | config
  | featureFlag
  | segment
  | logLevel
  deriving DecidableEq, Inhabited

def ConfigKind.all : List ConfigKind := [config, featureFlag, segment, logLevel]

def ConfigKind.name : ConfigKind → String
  | config => "CONFIG"
  | featureFlag => "FEATURE_FLAG"
  | segment => "SEGMENT"
  | logLevel => "LOG_LEVEL"

def ConfigKind.ofName? (name : String) : Option ConfigKind := all.find? (·.name == name)

/-- One version of a configuration; of two versions the one with the higher `id`
counts. -/
structure Config where
  id : Int
  key : String
  rows : List Row
  kind : ConfigKind
  valueType : Option ValueType
  deriving Inhabited, BEq

namespace Config

/-- All values in the configuration. -/
def literals (config : Config) : List Value := config.rows.flatMap Row.literals

def isTombstone (config : Config) : Bool := config.rows.isEmpty

/-- The configuration that always has one value. -/
def constant (key : String) (id : Int) (value : Value) : Config :=
  { id, key, rows := [⟨none, [⟨[], .value value⟩]⟩], kind := .config, valueType := value.type }

/-- The configuration that removes a key. -/
def tombstone (key : String) (id : Int) : Config :=
  { id, key, rows := [], kind := .config, valueType := none }

end Config

/-- How a configuration came to the client. -/
inductive Source
  | localOnly
  | localFile
  | remoteApi
  | streaming
  | initTimeout
  deriving DecidableEq, Inhabited

def Source.all : List Source := [localOnly, localFile, remoteApi, streaming, initTimeout]

def Source.name : Source → String
  | localOnly => "LOCAL_ONLY"
  | localFile => "LOCAL_FILE"
  | remoteApi => "REMOTE_API"
  | streaming => "STREAMING"
  | initTimeout => "INIT_TIMEOUT"

def Source.ofName? (name : String) : Option Source := all.find? (·.name == name)

structure Provenance where
  source : Source
  location : Option String := none
  deriving DecidableEq, Inhabited

/-- A configuration and how it came to the client. -/
structure Element where
  config : Config
  provenance : Provenance
  deriving Inhabited, BEq

/-- Where the configurations of a batch belong. -/
structure ServicePointer where
  projectId : Int
  environmentId : Int
  highestId : Int
  deriving DecidableEq, Inhabited

/-- A delivery of the server: configurations, where they belong, and a context that
lies under all others.  A configuration that cannot be read is kept as the JSON
that it is. -/
structure Batch where
  pointer : Option ServicePointer
  configs : List (Except Json Config)
  defaultContext : Option ContextSet
  deriving Inhabited

namespace Batch

/-- The configurations that could be read, in order. -/
def readable (batch : Batch) : List Config :=
  batch.configs.filterMap fun config => config.toOption

end Batch
end LiveConfig
