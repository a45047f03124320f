import LiveConfig.Regex.Tally
import LiveConfig.Regex.Words

/-!
# The size of a pattern's automaton

A pattern is refused if one of its two automata would take more than ten mebibytes:
the one that reads the text forward and also keeps where groups begin and end, and
the one that reads it backward.  The states are tallied in the order in which they
are made, since the states that a set can use again depend on their numbers.
-/

namespace LiveConfig
namespace Regex

def sizeLimit : Nat := 10 * 0x100000

def Tally.isOver (tally : Tally) : Bool := sizeLimit < tally.bytes

/-- Adds so many copies, or as many as there is room for. -/
def Tally.times (f : Tally → Tally) : Nat → Tally → Tally
  | 0, tally => tally
  | count + 1, tally => if tally.isOver then tally else times f count (f tally)

/-! ## Alternatives that are all literals -/

/-- The words, cut into chunks where a word is empty.  A further empty word before any
other one cuts nothing.  Chunks and words are read onto the front. -/
def chunks : (closed : List (List (List Nat))) → (chunk : List (List Nat)) →
    List (List Nat) → List (List (List Nat))
  | closed, chunk, [] => (chunk.reverse :: closed).reverse
  | closed, chunk, word :: rest =>
    if word ≠ [] then chunks closed (word :: chunk) rest
    else if closed ≠ [] ∧ chunk = [] ∧ closed.all (·.isEmpty) then chunks closed chunk rest
    else chunks (chunk.reverse :: closed) [] rest

/-- The states of a tree of words.  In each chunk one state branches on the bytes that
words begin with, and one state forks to the chunks and, after each but the last,
to the end. -/
def Tally.tree : (fuel : Nat) → List (List Nat) → Tally → Tally
  | 0, _, tally => tally
  | fuel + 1, words, tally =>
    let parts := chunks [] [] words
    let below (part : List (List Nat)) (tally : Tally) (byte : Nat) : Tally :=
      let rests := part.filterMap fun word =>
        if word.head? = some byte then some word.tail else none
      if rests.all (·.isEmpty) then tally else tree fuel rests tally
    let step (tally : Tally) (part : List (List Nat)) : Tally :=
      let firsts := (part.filterMap List.head?).eraseDups
      let tally := firsts.foldl (below part) tally
      if firsts.length < 2 then tally.plain firsts.length else tally.branching firsts.length
    let filled := parts.filter fun part => !part.isEmpty
    (parts.foldl step tally).fork (filled.length + (parts.length - 1))

def Tally.addWords (tally : Tally) (reverse : Bool) (words : List (List Nat)) : Tally :=
  let words := if reverse then words.map List.reverse else words
  Tally.tree ((words.map List.length).foldr max 0 + 1) words (tally.plain 1)

/-! ## Patterns -/

namespace Pattern

/-- The least length of a match; none where a part matches nothing at all. -/
def minLength? : Pattern → Option Nat
  | empty | look _ => some 0
  | literal chars => some chars.length
  | oneOf set _ => if set.ranges = [] then none else some 1
  | seq first second => do some ((← first.minLength?) + (← second.minLength?))
  | alt left right => do some (min (← left.minLength?) (← right.minLength?))
  | group _ inner => inner.minLength?
  | rep least _ _ inner => inner.minLength?.map (least * ·)

/-- Whether a match has to begin where the text begins. -/
def isAnchoredAtStart : Pattern → Bool
  | look l => l = .textStart
  | seq first second =>
    first.isAnchoredAtStart || (first.isEmptyOnly && second.isAnchoredAtStart)
  | alt left right => left.isAnchoredAtStart && right.isAnchoredAtStart
  | group _ inner => inner.isAnchoredAtStart
  | rep least _ _ inner => 0 < least && inner.isAnchoredAtStart
  | _ => false

/-- Whether a match has to end where the text ends. -/
def isAnchoredAtEnd : Pattern → Bool
  | look l => l = .textEnd
  | seq first second =>
    second.isAnchoredAtEnd || (second.isEmptyOnly && first.isAnchoredAtEnd)
  | alt left right => left.isAnchoredAtEnd && right.isAnchoredAtEnd
  | group _ inner => inner.isAnchoredAtEnd
  | rep least _ _ inner => 0 < least && inner.isAnchoredAtEnd
  | _ => false

/-- Ends a branch before which so many others of its alternation are made: the second
one brings the fork that leads to the first two, and the state where all end. -/
def join (earlier : Nat) (tally : Tally) : Tally :=
  match earlier with
  | 0 => tally
  | 1 => (tally.fork 2).plain 1
  | _ => { tally with listed := tally.listed + 4 }

/-- The states of a pattern, before which so many branches of the same alternation are
made.  A fork that ends a repetition also leads to what follows. -/
def states (reverse : Bool) : Pattern → (earlier : Nat) → Tally → Tally
  | empty, earlier, tally => join earlier (tally.plain 1)
  | literal chars, earlier, tally => join earlier (tally.plain (utf8Bytes chars).length)
  | oneOf set _, earlier, tally => join earlier (tally.addSet reverse set)
  | look _, earlier, tally => join earlier (tally.plain 1)
  | seq first second, earlier, tally =>
    join earlier <|
      if reverse then first.states reverse 0 (second.states reverse 0 tally)
      else second.states reverse 0 (first.states reverse 0 tally)
  | alt left right, earlier, tally =>
    match if earlier = 0 then (alt left right).words? else none with
    | some words => tally.addWords reverse words
    | none => right.states reverse (earlier + 1) (join earlier (left.states reverse 0 tally))
  | group _ inner, earlier, tally =>
    join earlier <|
      if reverse then inner.states reverse 0 tally
      else (inner.states reverse 0 (tally.plain 1)).plain 1
  | rep least most _ inner, earlier, tally =>
    let once := inner.states reverse 0
    let copies (count : Nat) : Tally :=
      if count = 0 then tally.plain 1 else Tally.times once count tally
    let optional (tally : Tally) : Tally := once (tally.fork 2)
    join earlier <|
      match least, most with
      | 0, some 1 => (optional tally).plain 1
      | 0, none =>
        if inner.minLength?.any (0 < ·) then optional tally
        else (((once tally).fork 2).fork 2).plain 1
      | least, none => (copies least).fork 2
      | least, some most =>
        if least = most then copies least
        else Tally.times optional (most - least) ((copies least).plain 1)

/-- The states of the whole automaton.  It begins with a loop over any bytes unless a
match has to begin where the reading does. -/
def automaton (reverse : Bool) (pattern : Pattern) : Tally :=
  let isAnchored := if reverse then pattern.isAnchoredAtEnd else pattern.isAnchoredAtStart
  let start : Tally := if isAnchored then ⟨1, 0⟩ else ((Tally.fork {} 2).plain 1).branching 1
  let body := if reverse then pattern else group 0 pattern
  (body.states reverse 0 start).plain 1

/-- Whether both automata are within the limit.  A choice of words takes no automaton if
they are few, or at least three thousand. -/
def fits (pattern : Pattern) : Bool :=
  pattern.words?.any (3000 ≤ ·.length) ||
    [false, true].all (fun reverse => !(pattern.automaton reverse).isOver) ||
      pattern.isFewWords

end Pattern
end Regex
end LiveConfig
