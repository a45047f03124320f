import LiveConfig.Unicode.Property

/-!
# Patterns and what they match

A pattern maps the set of positions at which it may begin in a text to the set of
positions at which it may then end (`Pattern.ends`).  A set of positions is the
natural number with those bits.  A text has a match if some position is an end of
the pattern begun anywhere.
-/

namespace LiveConfig
namespace Regex

/-- Conditions on a position between two characters. -/
inductive Look
  | textStart
  | textEnd
  | lineStart
  | lineEnd
  /-- Lines that also end at a carriage return, but not within a pair of it and a line feed. -/
  | anyLineStart
  | anyLineEnd
  | wordBoundary (unicode : Bool)
  | notWordBoundary (unicode : Bool)
  | wordStart (unicode : Bool)
  | wordEnd (unicode : Bool)
  | wordStartHalf (unicode : Bool)
  | wordEndHalf (unicode : Bool)
  deriving DecidableEq, Inhabited

inductive Pattern
  | empty
  /-- The characters one after the other. -/
  | literal (chars : List Char)
  /-- A character of the set; `bytes` where the set is named without the whole of Unicode. -/
  | oneOf (set : CharSet) (bytes : Bool)
  | look (look : Look)
  | seq (first second : Pattern)
  | alt (left right : Pattern)
  /-- A group whose text is kept, with its number. -/
  | group (index : Nat) (inner : Pattern)
  /-- A repetition; `greedy` where it prefers many. -/
  | rep (least : Nat) (most : Option Nat) (greedy : Bool) (inner : Pattern)
  deriving DecidableEq, Inhabited

/-- The word characters: of the whole of Unicode, or of ASCII. -/
def isWord (unicode : Bool) (c : Char) : Bool :=
  if unicode then Unicode.wordSet.mem c else c.isAlphanum || c == '_'

/-- Whether a look holds between the characters before and after a position. -/
def Look.holds (look : Look) (before after : Option Char) : Bool :=
  let word (unicode : Bool) (c : Option Char) : Bool := c.any (isWord unicode)
  match look with
  | textStart => before.isNone
  | textEnd => after.isNone
  | lineStart => before.isNone || before == some '\n'
  | lineEnd => after.isNone || after == some '\n'
  | anyLineStart =>
    before.isNone || before == some '\n' || (before == some '\r' && after != some '\n')
  | anyLineEnd =>
    after.isNone || after == some '\r' || (after == some '\n' && before != some '\r')
  | wordBoundary u => word u before != word u after
  | notWordBoundary u => word u before == word u after
  | wordStart u => !word u before && word u after
  | wordEnd u => word u before && !word u after
  | wordStartHalf u => !word u before
  | wordEndHalf u => !word u after

/-- The number with the bits of the list, the first one lowest. -/
def bits : List Bool → Nat
  | [] => 0
  | b :: rest => (if b then 1 else 0) + 2 * bits rest

/-- The positions before a character of the set. -/
def positionsOf (set : CharSet) (text : List Char) : Nat := bits (text.map set.mem)

/-- The positions at which a look holds, from the one after `before` on. -/
def positionsWhere (look : Look) (before : Option Char) : List Char → List Bool
  | [] => [look.holds before none]
  | c :: rest => look.holds before (some c) :: positionsWhere look (some c) rest

/-- Applies `f` the given number of times, or until nothing changes. -/
def iterate (f : Nat → Nat) : Nat → Nat → Nat
  | 0, positions => positions
  | count + 1, positions =>
    let next := f positions
    if next = positions then positions else iterate f count next

/-- Joins what `f` reaches in at most the given number of steps. -/
def reach (f : Nat → Nat) : Nat → Nat → Nat
  | 0, positions => positions
  | count + 1, positions =>
    let next := positions ||| f positions
    if next = positions then positions else reach f count next

/-- The positions after the characters, where they begin at one of the positions. -/
def afterChars (text : List Char) (chars : List Char) (positions : Nat) : Nat :=
  chars.foldl (fun positions c => (positions &&& bits (text.map (· == c))) <<< 1) positions

/-- Where the pattern may end when it begins at one of the positions. -/
def Pattern.ends (text : List Char) : Pattern → Nat → Nat
  | empty, positions => positions
  | literal chars, positions => afterChars text chars positions
  | oneOf set _, positions => (positions &&& positionsOf set text) <<< 1
  | look l, positions => positions &&& bits (positionsWhere l none text)
  | seq first second, positions => second.ends text (first.ends text positions)
  | alt left right, positions => left.ends text positions ||| right.ends text positions
  | group _ inner, positions => inner.ends text positions
  | rep least most _ inner, positions =>
    let start := iterate (inner.ends text) least positions
    match most with
    | none => reach (inner.ends text) (text.length + 1) start
    | some most => reach (inner.ends text) (most - least) start

/-- Whether some part of the text matches. -/
def Pattern.isMatch (pattern : Pattern) (text : List Char) : Bool :=
  pattern.ends text ((1 <<< (text.length + 1)) - 1) != 0

end Regex
end LiveConfig
