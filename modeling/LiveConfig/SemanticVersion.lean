import LiveConfig.Number.Decimal
import LiveConfig.Text.Blank

/-!
# Semantic versions

Three numbers, then optionally pre-release identifiers after a hyphen and build
identifiers after a plus sign.  A release follows its pre-releases.  Versions that
differ only in their build identifiers are different, and are ordered by them.
-/

namespace LiveConfig

structure SemanticVersion where
  major : Nat
  minor : Nat
  patch : Nat
  preRelease : List (List Char)
  build : List (List Char)
  deriving DecidableEq, Inhabited

namespace SemanticVersion

def isIdentifierChar (c : Char) : Bool := c.isAlphanum || c == '-'

/-- A number below `2 ^ 64` without superfluous zeros, at the start of the input. -/
def parseNumber (input : List Char) : Option (Nat × List Char) :=
  let digits := input.takeWhile isDigit
  let n := natOfDigits digits
  if digits = [] ∨ (digits.head? = some '0' ∧ 1 < digits.length) ∨ 0x10000000000000000 ≤ n then none
  else some (n, input.dropWhile isDigit)

def isNumeric (identifier : List Char) : Bool := identifier.all isDigit

/-- Identifiers between dots, none of them empty; numbers among them may not begin
with a superfluous zero unless `zeros`. -/
def parseIdentifiers (zeros : Bool) (text : List Char) : Option (List (List Char)) :=
  let identifiers := Text.splitChars '.' text
  let valid (identifier : List Char) : Bool :=
    identifier ≠ [] && identifier.all isIdentifierChar &&
      (zeros || !isNumeric identifier || identifier.length == 1 || identifier.head? != some '0')
  if identifiers.all valid then some identifiers else none

def afterDot : List Char → Option (List Char)
  | '.' :: rest => some rest
  | _ => none

def parse? (text : List Char) : Option SemanticVersion := do
  let (major, rest) ← parseNumber text
  let (minor, rest) ← parseNumber (← afterDot rest)
  let (patch, rest) ← parseNumber (← afterDot rest)
  let (preRelease, rest) ←
    match rest with
    | '-' :: rest => do
      let identifiers ← parseIdentifiers false (rest.takeWhile (· != '+'))
      some (identifiers, rest.dropWhile (· != '+'))
    | rest => some ([], rest)
  match rest with
  | [] => some ⟨major, minor, patch, preRelease, []⟩
  | '+' :: rest => do
    let build ← parseIdentifiers true rest
    some ⟨major, minor, patch, preRelease, build⟩
  | _ => none

/-- The order of texts by their code points. -/
def compareText : List Char → List Char → Ordering
  | [], [] => .eq
  | [], _ :: _ => .lt
  | _ :: _, [] => .gt
  | a :: as, b :: bs => (compare a.toNat b.toNat).then (compareText as bs)

/-- Numbers come before words; numbers by value, and then by their leading zeros. -/
def compareIdentifier (a b : List Char) : Ordering :=
  match isNumeric a, isNumeric b with
  | true, false => .lt
  | false, true => .gt
  | false, false => compareText a b
  | true, true =>
    (compare (natOfDigits a) (natOfDigits b)).then (compare a.length b.length)

/-- The first difference decides; a longer list follows its beginnings. -/
def compareIdentifiers : List (List Char) → List (List Char) → Ordering
  | [], [] => .eq
  | [], _ :: _ => .lt
  | _ :: _, [] => .gt
  | a :: as, b :: bs => (compareIdentifier a b).then (compareIdentifiers as bs)

/-- As `compareIdentifiers`, but no identifiers follow any. -/
def comparePreRelease : List (List Char) → List (List Char) → Ordering
  | [], [] => .eq
  | [], _ :: _ => .gt
  | _ :: _, [] => .lt
  | as, bs => compareIdentifiers as bs

def order (a b : SemanticVersion) : Ordering :=
  (compare a.major b.major).then <| (compare a.minor b.minor).then <|
    (compare a.patch b.patch).then <| (comparePreRelease a.preRelease b.preRelease).then <|
      compareIdentifiers a.build b.build

end SemanticVersion
end LiveConfig
