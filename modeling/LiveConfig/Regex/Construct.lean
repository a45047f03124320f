import LiveConfig.Regex.Pattern

/-!
# Building patterns

Patterns are built in a simple form.  A sequence holds no sequences and no two
literals side by side; both it and an alternation nest to the right.  Alternatives
that are single characters, or all sets, become one set, and those that begin
alike share their beginning.  What matches the empty text only is not repeated.
-/

namespace LiveConfig
namespace Regex
namespace Pattern

def surrogates : CharSet := .range 0xD800 0xDFFF

/-- A character of the set.  No character is a surrogate, and nothing is in the empty
set, however it is named. -/
def ofSet (set : CharSet) (bytes : Bool) : Pattern :=
  let set := if set.below 0xD800 then set else set.diff surrogates
  match set.ranges with
  | [] => .oneOf .empty true
  | [(first, last)] =>
    if first = last then .literal [Char.ofNat first] else .oneOf set bytes
  | _ => .oneOf set bytes

/-! ## Sequences -/

/-- The parts of a sequence, or the pattern alone. -/
def factors : Pattern → List Pattern
  | empty => []
  | seq first second => first :: second.factors
  | p => [p]

def ofFactors : List Pattern → Pattern
  | [] => empty
  | [p] => p
  | p :: rest => seq p (ofFactors rest)

/-- Puts a part before others, as one literal where two meet. -/
def joinLiteral : Pattern → List Pattern → List Pattern
  | literal chars, literal more :: rest => literal (chars ++ more) :: rest
  | p, rest => p :: rest

/-- The parts one after the other. -/
def sequence (parts : List Pattern) : Pattern :=
  ofFactors ((parts.flatMap factors).foldr joinLiteral [])

/-! ## Alternatives -/

/-- The branches of an alternation, or the pattern alone. -/
def branches : Pattern → List Pattern
  | alt left right => left :: right.branches
  | p => [p]

def ofBranches : List Pattern → Pattern
  | [] => ofSet .empty true
  | [p] => p
  | p :: rest => alt p (ofBranches rest)

def isSequence : Pattern → Bool
  | seq _ _ => true
  | _ => false

/-- The set of a literal of one character. -/
def charSet? : Pattern → Option CharSet
  | literal [c] => some (.single c.toNat)
  | _ => none

def set? : Pattern → Option CharSet
  | oneOf set _ => some set
  | _ => none

/-- One set for branches that are all single characters, or all sets. -/
def joinSets? (parts : List Pattern) : Option Pattern :=
  let join (sets : List CharSet) : Pattern :=
    ofSet (.ofRanges (sets.flatMap (·.ranges))) false
  match parts.mapM charSet? with
  | some sets => some (join sets)
  | none => (parts.mapM set?).map join

/-- The longest common beginning. -/
def shared : List Pattern → List Pattern → List Pattern
  | p :: ps, q :: qs => if p = q then p :: shared ps qs else []
  | _, _ => []

/-- What several sequences begin with; nothing if one of them is no sequence. -/
def commonBeginning : List Pattern → List Pattern
  | [] => []
  | first :: rest =>
    if (first :: rest).all isSequence then
      rest.foldl (fun common p => shared common p.factors) first.factors
    else []

/-- The number of parts of a pattern. -/
def weight : Pattern → Nat
  | seq first second => first.weight + second.weight + 1
  | alt left right => left.weight + right.weight + 1
  | group _ inner => inner.weight + 1
  | rep _ _ _ inner => inner.weight + 1
  | _ => 1

/-- One of the parts.  The beginning that they share is taken out, and again from what
is left of them, which each time leaves less of the first part. -/
def factored : (fuel : Nat) → List Pattern → Pattern
  | 0, parts => ofBranches (parts.flatMap branches)
  | fuel + 1, parts =>
    match parts.flatMap branches with
    | [] => ofBranches []
    | [p] => p
    | parts =>
      match joinSets? parts, commonBeginning parts with
      | some p, _ => p
      | none, [] => ofBranches parts
      | none, common =>
        let rests := parts.map fun p => ofFactors (p.factors.drop common.length)
        sequence (common ++ [factored fuel rests])

def alternatives (parts : List Pattern) : Pattern :=
  factored ((parts.map weight).foldr max 0) parts

/-! ## Repetitions -/

/-- Whether a pattern can match the empty text and no other. -/
def isEmptyOnly : Pattern → Bool
  | empty | look _ => true
  | literal _ | oneOf _ _ => false
  | seq first second => first.isEmptyOnly && second.isEmptyOnly
  | alt left right => left.isEmptyOnly && right.isEmptyOnly
  | group _ inner => inner.isEmptyOnly
  | rep _ _ _ inner => inner.isEmptyOnly

/-- A repetition.  What is blank need not be matched twice. -/
def repeated (least : Nat) (most : Option Nat) (greedy : Bool) (inner : Pattern) : Pattern :=
  let (least, most) :=
    if inner.isEmptyOnly then (min least 1, some (min (most.getD 1) 1)) else (least, most)
  if most = some 0 then empty
  else if least = 1 ∧ most = some 1 then inner
  else rep least most greedy inner

end Pattern
end Regex
end LiveConfig
