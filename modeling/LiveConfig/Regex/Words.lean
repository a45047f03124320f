import LiveConfig.Regex.Construct
import LiveConfig.Regex.Tally

/-!
# Patterns that are words

An alternation of literals is a choice of words.  So is any pattern without looks and
groups that matches finitely many texts, if it is found out within some limits
(`Pattern.texts?`).  An empty set matches nothing, and nothing that stands before or
after it does.
-/

namespace LiveConfig
namespace Regex

/-- The UTF-8 bytes of a text. -/
abbrev Word := List Nat

/-- The bytes of a literal. -/
def utf8Bytes (chars : List Char) : Word := chars.flatMap fun c => encodeCode c.toNat

/-- The branches of an alternation of literals only, as bytes. -/
def Pattern.words? (pattern : Pattern) : Option (List Word) :=
  pattern.branches.mapM fun
    | literal chars => some (utf8Bytes chars)
    | _ => none

namespace Pattern

/-- Whether there are no looks and no groups in a pattern. -/
def isPlain : Pattern → Bool
  | look _ | group _ _ => false
  | seq first second => first.isPlain && second.isPlain
  | alt left right => left.isPlain && right.isPlain
  | rep _ _ _ inner => inner.isPlain
  | _ => true

/-- The words, if they are not too many and none is too long. -/
def limited (words : List Word) : Option (List Word) :=
  let words := words.eraseDups
  if words.length ≤ 250 ∧ words.all (·.length ≤ 100) then some words else none

/-- The words of one list followed by those of the other. -/
def crossed (first second : List Word) : Option (List Word) :=
  limited (first.flatMap fun a => second.map fun b => a ++ b)

/-- The words of a list, so many of them one after the other. -/
def crossedTimes (words : List Word) : Nat → Option (List Word)
  | 0 => some [[]]
  | count + 1 => (crossedTimes words count).bind fun before => crossed before words

/-- The members of a small set. -/
def members? (set : CharSet) : Option (List Word) :=
  let count := (set.ranges.map fun r => r.2 + 1 - r.1).foldr (· + ·) 0
  if count ≤ 10 then
    some (set.ranges.flatMap fun r =>
      (List.range (r.2 + 1 - r.1)).map fun i => encodeCode (r.1 + i))
  else none

/-- The texts that a pattern matches, as far as they are found out. -/
def texts? : Pattern → Option (List Word)
  | empty | look _ => some [[]]
  | literal chars => limited [utf8Bytes chars]
  | oneOf set _ => members? set
  | seq first second => do
    let before ← first.texts?
    if before = [] then some [] else crossed before (← second.texts?)
  | alt left right => do limited ((← left.texts?) ++ (← right.texts?))
  | group _ inner => inner.texts?
  | rep least most _ inner => do
    let words ← inner.texts?
    if words = [] then some (if least = 0 then [[]] else [])
    else if least = 0 ∧ most = some 1 then limited ([] :: words)
    else if most = some least ∧ least ≤ 10 then crossedTimes words least
    else none

/-- The words that begin with no earlier one. -/
def minimal (words : List Word) : List Word :=
  words.foldl (fun kept word => if kept.any (·.isPrefixOf word) then kept else kept ++ [word]) []

/-- Whether a pattern is a choice of a few words, none of which is empty, and which do
not all begin alike. -/
def isFewWords (pattern : Pattern) : Bool :=
  pattern.isPlain &&
    match pattern.texts?.map minimal with
    | some [word] => word ≠ []
    | some (first :: rest) =>
      rest.length < 10 && !rest.all (fun word => word.head? = first.head?)
    | _ => false

end Pattern
end Regex
end LiveConfig
