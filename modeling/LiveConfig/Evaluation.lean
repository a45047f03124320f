import LiveConfig.Criterion
import LiveConfig.Rollout

/-!
# Evaluation of configurations

A configuration has the value of the first of its conditional values, in the rows
for the environment, whose criteria all hold.  Criteria may ask for membership in a
segment, which is itself a configuration; such references are followed to a limited
depth.  An error in a criterion or in finding the value ends the evaluation.
-/

namespace LiveConfig

/-- All layers of configurations at one time, with what came along with them. -/
structure Snapshot where
  configs : KeyMap Element
  environment : Int
  globals : ContextSet
  serverDefault : ContextSet
  highwater : Int
  deriving Inhabited

def Snapshot.empty : Snapshot := ⟨.empty, 0, .empty, .empty, 0⟩

inductive EvaluationError
  | missingPropertyName (operator : Operator)
  | invalidWeights
  | providedValueUnavailable (envVar : String)
  | segmentDepthExceeded (segment : String)
  deriving DecidableEq, Inhabited

def EvaluationError.message : EvaluationError → String
  | missingPropertyName operator =>
    "criterion with operator " ++ operator.label ++ " is missing a property name"
  | invalidWeights => "weighted values have no positive total weight"
  | providedValueUnavailable envVar =>
    "provided value from " ++ envVar ++ " is unavailable or has the wrong type"
  | segmentDepthExceeded segment => "segment " ++ segment ++ " nests too deeply"

/-- A value and how it was found: the positions of its row and conditional value, the
position of the choice if it was weighted, and the criteria that hold. -/
structure Match where
  key : String
  id : Int
  value : Value
  provenance : Provenance
  row : Nat
  conditional : Nat
  weighted : Option Nat
  criteria : List Criterion
  deriving Inhabited, BEq

/-- The variables of the environment that values may be taken from. -/
abbrev Environment := String → Option String

/-- Who belongs to a segment, by the segment's key. -/
abbrev Membership := String → Except EvaluationError Bool

namespace Criterion

/-- The key of the segment that a criterion refers to. -/
def segment? (criterion : Criterion) : Option String :=
  match criterion.operator with
  | .inSeg | .notInSeg => criterion.target.bind Value.string?
  | _ => none

def isMember (member : Membership) (criterion : Criterion) : Except EvaluationError Bool :=
  match criterion.target.bind Value.string? with
  | some segment => member segment
  | none => .ok false

/-- Whether the criterion holds of a context. -/
def holds (member : Membership) (context : ContextSet) (criterion : Criterion) :
    Except EvaluationError Bool :=
  match criterion.operator with
  | .inSeg => criterion.isMember member
  | .notInSeg => (criterion.isMember member).map (!·)
  | op =>
    if op.readsProperty then
      match criterion.property with
      | some property => .ok (op.holds (context.lookup? property) criterion.target)
      | none => .error (.missingPropertyName op)
    else .ok (op.holds none criterion.target)

/-- Whether all criteria hold; the first that does not decides. -/
def allHold (member : Membership) (context : ContextSet) :
    List Criterion → Except EvaluationError Bool
  | [] => .ok true
  | criterion :: rest =>
    match criterion.holds member context with
    | .ok true => allHold member context rest
    | .ok false => .ok false
    | .error e => .error e

end Criterion

/-- The value of a source, and the position of the choice if it is weighted. -/
def ValueSource.resolve (env : Environment) (context : ContextSet) (config : Config) :
    ValueSource → Except EvaluationError (Value × Option Nat)
  | value v => .ok (v, none)
  | weighted values =>
    match values.select? config.key context with
    | some (index, v) => .ok (v, some index)
    | none => .error .invalidWeights
  | provided envVar =>
    match (do (← config.valueType).coerce? (← env envVar)) with
    | some v => .ok (v, none)
    | none => .error (.providedValueUnavailable envVar)

/-- A conditional value with the positions of its row and of itself. -/
structure Candidate where
  row : Nat
  conditional : Nat
  value : ConditionalValue
  deriving Inhabited

namespace Config

/-- The conditional values of the rows for an environment, in order. -/
def candidates (config : Config) (environment : Int) : List Candidate :=
  config.rows.zipIdx.flatMap fun (row, i) =>
    if row.environment.all (· == environment) then
      row.values.zipIdx.map fun (value, j) => ⟨i, j, value⟩
    else []

end Config

namespace Element

def matchOf (env : Environment) (context : ContextSet) (element : Element)
    (candidate : Candidate) : Except EvaluationError Match := do
  let config := element.config
  let (value, weighted) ← candidate.value.source.resolve env context config
  return { key := config.key, id := config.id, value, provenance := element.provenance,
           row := candidate.row, conditional := candidate.conditional, weighted,
           criteria := candidate.value.criteria }

/-- The match of the first candidate whose criteria hold. -/
def firstMatch (member : Membership) (env : Environment) (context : ContextSet)
    (element : Element) : List Candidate → Except EvaluationError (Option Match)
  | [] => .ok none
  | candidate :: rest =>
    match Criterion.allHold member context candidate.value.criteria with
    | .ok true => (element.matchOf env context candidate).map some
    | .ok false => firstMatch member env context element rest
    | .error e => .error e

end Element

namespace Snapshot

/-- Evaluates a configuration when it is known who belongs to a segment. -/
def evaluateWith (snapshot : Snapshot) (member : Membership) (env : Environment)
    (context : ContextSet) (element : Element) : Except EvaluationError (Option Match) :=
  element.firstMatch member env context (element.config.candidates snapshot.environment)

/-- Membership in a segment, with references followed to the given depth.  The
members of a segment are the contexts for which it is true. -/
def memberWithin (snapshot : Snapshot) (env : Environment) (context : ContextSet) :
    Nat → Membership
  | 0, segment => .error (.segmentDepthExceeded segment)
  | depth + 1, segment =>
    match snapshot.configs.get? segment with
    | none => .ok false
    | some element =>
      (snapshot.evaluateWith (snapshot.memberWithin env context depth) env context element).map
        fun found => found.any fun m => m.value.bool? == some true

/-- Evaluates with segment references followed to the given depth. -/
def evaluateWithin (snapshot : Snapshot) (env : Environment) (context : ContextSet)
    (depth : Nat) (element : Element) : Except EvaluationError (Option Match) :=
  snapshot.evaluateWith (snapshot.memberWithin env context depth) env context element

/-- How deep segments may refer to segments. -/
def segmentDepth : Nat := 8

def evaluate (snapshot : Snapshot) (env : Environment) (context : ContextSet)
    (element : Element) : Except EvaluationError (Option Match) :=
  snapshot.evaluateWithin env context segmentDepth element

/-- The match for a key; an error in the evaluation counts as none. -/
def match? (snapshot : Snapshot) (env : Environment) (context : ContextSet) (key : String) :
    Option Match := do
  match snapshot.evaluate env context (← snapshot.configs.get? key) with
  | .ok found => found
  | .error _ => none

/-- The layers of context for an evaluation in this snapshot. -/
def contextFor (snapshot : Snapshot) (ambient explicit : ContextSet) : ContextSet :=
  ContextSet.layered (some snapshot.serverDefault) snapshot.globals ambient explicit

def keys (snapshot : Snapshot) : List String := snapshot.configs.keys

/-- The configurations that are no tombstones. -/
def configMap (configs : KeyMap Element) : KeyMap Config :=
  (configs.filter fun _ element => !element.config.isTombstone).mapValues (·.config)

end Snapshot
end LiveConfig
