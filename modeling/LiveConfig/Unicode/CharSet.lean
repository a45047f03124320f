import LiveConfig.Text.Blank
import LiveConfig.Number.Decimal

/-!
# Sets of code points

A set is a list of closed ranges.  The operations of the algebra of sets keep the
ranges increasing and apart (`CharSet.coalesce`).  `CharSet.ofTable` reads the
notation of the property tables: code points and ranges in hexadecimal, with
blanks between them, where `100-12e/2` is every second code point of a range.
-/

namespace LiveConfig
namespace Unicode

def hexDigitValue (c : Char) : Nat :=
  if isDigit c then digitValue c else c.toLower.toNat - 'a'.toNat + 10

def natOfHex (digits : List Char) : Nat :=
  digits.foldl (fun n c => 16 * n + hexDigitValue c) 0

/-- The pieces of a text between runs of white space. -/
def blankSeparated (text : List Char) : List (List Char) :=
  let step (c : Char) (acc : List (List Char)) : List (List Char) :=
    if isBlank c then [] :: acc
    else match acc with
      | [] => [[c]]
      | piece :: pieces => (c :: piece) :: pieces
  (text.foldr step []).filter (· ≠ [])

end Unicode

/-- The code points in one of the ranges, both ends included. -/
structure CharSet where
  ranges : List (Nat × Nat)
  deriving DecidableEq, Inhabited

namespace CharSet

def lastCodePoint : Nat := 0x10FFFF

def contains (set : CharSet) (code : Nat) : Bool :=
  set.ranges.any fun r => r.1 ≤ code && code ≤ r.2

def mem (set : CharSet) (c : Char) : Bool := set.contains c.toNat

/-- Joins a range with those that touch it, in a list by increasing first end. -/
def joinTouching : Nat × Nat → List (Nat × Nat) → List (Nat × Nat)
  | (a, b), [] => [(a, b)]
  | (a, b), (c, d) :: rest =>
    if c ≤ b + 1 then joinTouching (a, max b d) rest else (a, b) :: joinTouching (c, d) rest

/-- The same code points by increasing ranges that do not touch. -/
def coalesce (ranges : List (Nat × Nat)) : List (Nat × Nat) :=
  match ranges.mergeSort fun a b => a.1 ≤ b.1 with
  | [] => []
  | first :: rest => joinTouching first rest

def empty : CharSet := ⟨[]⟩

def all : CharSet := ⟨[(0, lastCodePoint)]⟩

def single (code : Nat) : CharSet := ⟨[(code, code)]⟩

def range (first last : Nat) : CharSet := ⟨[(first, last)]⟩

def ofRanges (ranges : List (Nat × Nat)) : CharSet := ⟨coalesce ranges⟩

def union (a b : CharSet) : CharSet := ofRanges (a.ranges ++ b.ranges)

/-- The gaps between increasing ranges from `start` on. -/
def gaps : Nat → List (Nat × Nat) → List (Nat × Nat)
  | start, [] => if start ≤ lastCodePoint then [(start, lastCodePoint)] else []
  | start, (a, b) :: rest =>
    if start < a then (start, a - 1) :: gaps (b + 1) rest else gaps (b + 1) rest

def compl (a : CharSet) : CharSet := ⟨gaps 0 (coalesce a.ranges)⟩

def inter (a b : CharSet) : CharSet := (a.compl.union b.compl).compl

def diff (a b : CharSet) : CharSet := a.inter b.compl

def symmDiff (a b : CharSet) : CharSet := (a.diff b).union (b.diff a)

/-- Whether every member is below `bound`. -/
def below (set : CharSet) (bound : Nat) : Bool := set.ranges.all fun r => r.2 < bound

/-- Reads `41-5a` as a range and `aa` as a single code point. -/
def readRange (text : List Char) : Nat × Nat :=
  match Text.splitChars '-' text with
  | [first, last] => (Unicode.natOfHex first, Unicode.natOfHex last)
  | _ => (Unicode.natOfHex text, Unicode.natOfHex text)

/-- Reads `100-12e/2` as the code points from the first one on at that distance. -/
def readRanges (text : List Char) : List (Nat × Nat) :=
  match Text.splitChars '/' text with
  | [range, distance] =>
    let (first, last) := readRange range
    let distance := Unicode.natOfHex distance
    (List.range ((last - first) / distance + 1)).map fun i =>
      (first + distance * i, first + distance * i)
  | _ => [readRange text]

def ofTable (table : String) : CharSet :=
  ofRanges ((Unicode.blankSeparated table.toList).flatMap readRanges)

end CharSet
end LiveConfig
