import LiveConfig.Config
import LiveConfig.Regex.Parser
import LiveConfig.SemanticVersion

/-!
# Operators on property values

An operator either applies to a property and a target and answers, or does not
apply: the property or the target is absent, of a type that it cannot compare, or
no pattern or version.  `Operator.holds` counts the latter as a criterion that does
not hold.  Operators on segments never apply here.
-/

namespace LiveConfig
namespace Operator

/-- The strings that the operators on several values compare with; a scalar is a
set of one. -/
def matchSet? : Value → Option (List String)
  | .stringList items => some items
  | value => value.matchText?.map fun text => [text]

/-- A relation of a property's text to one string of the match set. -/
inductive Relation
  | equals
  | startsWith
  | endsWith
  | contains

def Relation.holds (relation : Relation) (text part : String) : Bool :=
  match relation with
  | equals => part == text
  | startsWith => part.toList.isPrefixOf text.toList
  | endsWith => part.toList.isSuffixOf text.toList
  | contains => Text.occursIn part.toList text.toList

/-- Whether the property is in the relation to some string of the match set. -/
def someRelated (relation : Relation) (property target : Option Value) : Option Bool := do
  let text ← (← property).matchText?
  let parts ← matchSet? (← target)
  return parts.any (relation.holds text)

def matchesPattern (property target : Option Value) : Option Bool := do
  let text ← (← property).matchText?
  let pattern ← (← target).string?
  Regex.isMatch? pattern text

/-- The number that a value stands for in comparisons. -/
def number? : Value → Option Double
  | .int i => some (Double.ofInt i.toInt)
  | .double d => some d
  | .string s => Double.ofText? (Text.trimChars s.toList)
  | _ => none

/-- Two integers are compared exactly, other numbers as doubles. -/
def compareNumbers (property target : Option Value) : Option Ordering := do
  match ← property, ← target with
  | .int a, .int b => some (compare a.toInt b.toInt)
  | a, b => (← number? a).compare? (← number? b)

def version? : Value → Option SemanticVersion
  | .string s => SemanticVersion.parse? (Text.trimChars s.toList)
  | _ => none

def compareVersions (property target : Option Value) : Option Ordering := do
  return (← version? (← property)).order (← version? (← target))

/-- The integer that a value stands for in ranges. -/
def integer? : Value → Option Int64
  | .int i => some i
  | .string s => int64OfText? (Text.trimChars s.toList)
  | _ => none

/-- A bound of a range: an integer, or the default if it is missing. -/
def bound? (range : Json) (name : String) (default : Int64) : Option Int64 :=
  match range.member? name with
  | some bound => bound.int64?
  | none => some default

def inRange (property target : Option Value) : Option Bool := do
  let value ← integer? (← property)
  match ← target with
  | .json range =>
    let start ← bound? range "start" Int64.minValue
    let stop ← bound? range "end" Int64.maxValue
    return start ≤ value && value < stop
  | _ => none

/-- What the operator answers, if it applies. -/
def answer? (op : Operator) (property target : Option Value) : Option Bool :=
  match op with
  | alwaysTrue => some true
  | propIsOneOf => someRelated .equals property target
  | propIsNotOneOf => (someRelated .equals property target).map (!·)
  | propStartsWithOneOf => someRelated .startsWith property target
  | propDoesNotStartWithOneOf => (someRelated .startsWith property target).map (!·)
  | propEndsWithOneOf => someRelated .endsWith property target
  | propDoesNotEndWithOneOf => (someRelated .endsWith property target).map (!·)
  | propContainsOneOf => someRelated .contains property target
  | propDoesNotContainOneOf => (someRelated .contains property target).map (!·)
  | propMatches => matchesPattern property target
  | propDoesNotMatch => (matchesPattern property target).map (!·)
  | propGreaterThan => (compareNumbers property target).map (·.isGT)
  | propGreaterThanOrEqual => (compareNumbers property target).map (·.isGE)
  | propLessThan => (compareNumbers property target).map (·.isLT)
  | propLessThanOrEqual => (compareNumbers property target).map (·.isLE)
  | propSemverEqual => (compareVersions property target).map (·.isEq)
  | propSemverGreaterThan => (compareVersions property target).map (·.isGT)
  | propSemverLessThan => (compareVersions property target).map (·.isLT)
  | inIntRange => inRange property target
  | inSeg => none
  | notInSeg => none

/-- Whether the criterion holds; one whose operator does not apply does not. -/
def holds (op : Operator) (property target : Option Value) : Bool :=
  (op.answer? property target).getD false

end Operator
end LiveConfig
