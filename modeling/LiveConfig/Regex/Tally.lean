import LiveConfig.Unicode.CharSet
import Std.Data.HashMap

/-!
# The states that a set of characters takes

An automaton reads its text byte by byte.  Its states are numbered as they are made,
and a tally keeps their count and the size of the lists that some of them hold.
A set of ASCII characters takes one branching state.  Any other set takes the
states of the byte sequences that encode it, where an equal state is used again if
it is still known.  What is known is kept in a table with a fixed number of slots,
and of two states with one slot the later one stays.
-/

namespace LiveConfig
namespace Regex

/-! ## Byte sequences -/

/-- The UTF-8 bytes of a code point that is not a surrogate. -/
def encodeCode (code : Nat) : List Nat :=
  if code < 0x80 then [code]
  else if code < 0x800 then [0xC0 + code / 64, 0x80 + code % 64]
  else if code < 0x10000 then [0xE0 + code / 4096, 0x80 + code / 64 % 64, 0x80 + code % 64]
  else [0xF0 + code / 262144, 0x80 + code / 4096 % 64, 0x80 + code / 64 % 64, 0x80 + code % 64]

/-- The first place at which a range of code points has to be cut so that each part
is a sequence of byte ranges. -/
def cut? (first last : Nat) : Option Nat :=
  let edges := [0x80, 0x800, 0xD800, 0xE000, 0x10000]
  match edges.find? fun edge => first < edge && edge ≤ last with
  | some edge => some edge
  | none =>
    if first < 0x80 then none
    else
      [64, 4096, 262144].findSome? fun unit =>
        if first / unit = last / unit then none
        else if first % unit ≠ 0 then some ((first / unit + 1) * unit)
        else if last % unit ≠ unit - 1 then some (last / unit * unit)
        else none

/-- A range of bytes, both ends included. -/
abbrev ByteRange := Nat × Nat

/-- The sequences of byte ranges that encode the code points of a range. -/
def byteSequences : Nat → Nat → Nat → List (List ByteRange)
  | 0, _, _ => []
  | fuel + 1, first, last =>
    match cut? first last with
    | some edge => byteSequences fuel first (edge - 1) ++ byteSequences fuel edge last
    | none =>
      if 0xD800 ≤ first ∧ first < 0xE000 then []
      else [(encodeCode first).zip (encodeCode last)]

def sequencesOf (set : CharSet) : List (List ByteRange) :=
  set.ranges.flatMap fun r => byteSequences 64 r.1 r.2

/-! ## Tallies -/

/-- The count of the states so far, and the bytes of the lists that they hold. -/
structure Tally where
  states : Nat := 0
  listed : Nat := 0
  deriving DecidableEq, Inhabited

namespace Tally

/-- A state takes thirty-two bytes without its list. -/
def bytes (tally : Tally) : Nat := 32 * tally.states + tally.listed

/-- One more state, whose list takes so many bytes. -/
def add (tally : Tally) (listed : Nat) : Tally := ⟨tally.states + 1, tally.listed + listed⟩

/-- So many more states without lists. -/
def plain (tally : Tally) (count : Nat) : Tally := { tally with states := tally.states + count }

/-- A state that branches on so many byte ranges. -/
def branching (tally : Tally) (count : Nat) : Tally := tally.add (8 * count)

/-- A state that leads on to so many others without reading a byte. -/
def fork (tally : Tally) (count : Nat) : Tally := tally.add (4 * count)

end Tally

/-- The slot of a table for a list of numbers, by the FNV-1a hash. -/
def slotOf (slots : Nat) (key : List Nat) : Nat :=
  let step (hash : UInt64) (n : Nat) : UInt64 := (hash ^^^ n.toUInt64) * 0x100000001B3
  (key.foldl step 0xCBF29CE484222325).toNat % slots

/-! ## Reading forward -/

/-- A range of bytes and the state that it leads to. -/
structure Edge where
  first : Nat
  last : Nat
  next : Nat
  deriving DecidableEq, Inhabited

/-- A state that is not made yet: its edges, the last one first, and a byte range
whose next state is not made either. -/
structure Draft where
  edges : List Edge := []
  open? : Option ByteRange := none
  deriving Inhabited

/-- Leads the open byte range to a state. -/
def Draft.settle (draft : Draft) (next : Nat) : List Edge :=
  match draft.open? with
  | some (first, last) => ⟨first, last, next⟩ :: draft.edges
  | none => draft.edges

/-- The states made while the sequences of a set are read, and the known ones of them
by slot. -/
structure Sharing where
  tally : Tally
  known : Std.HashMap Nat (List Edge × Nat) := ∅

namespace Sharing

/-- The state with these edges: the known one, or a new one. -/
def state (s : Sharing) (edges : List Edge) : Nat × Sharing :=
  let slot := slotOf 10000 (edges.flatMap fun e => [e.first, e.last, e.next])
  let fresh : Nat × Sharing :=
    (s.tally.states,
      ⟨s.tally.branching edges.length, s.known.insert slot (edges, s.tally.states)⟩)
  match s.known.get? slot with
  | some (same, id) => if same = edges then (id, s) else fresh
  | none => fresh

/-- Makes the states of the last `count` drafts, the deepest of which comes first and
leads to `next`.  The draft before them is left open to further edges. -/
def close : (count : Nat) → (next : Nat) → List Draft → Sharing → List Draft × Sharing
  | count + 1, next, draft :: rest, s =>
    let (id, s) := s.state (draft.settle next).reverse
    close count id rest s
  | 0, next, draft :: rest, s => (⟨draft.settle next, none⟩ :: rest, s)
  | _, _, [], s => ([], s)

/-- Adds a sequence after others that come before it in order.  It shares with the last
of them the drafts of the byte ranges that both begin with. -/
def push (target : Nat) (drafts : List Draft) (s : Sharing) (ranges : List ByteRange) :
    List Draft × Sharing :=
  let shared :=
    ((ranges.zip drafts.reverse).takeWhile fun (r, draft) => draft.open? == some r).length
  let (drafts, s) := close (drafts.length - 1 - shared) target drafts s
  match drafts, ranges.drop shared with
  | draft :: rest, range :: more =>
    (more.reverse.map (fun r => ⟨[], some r⟩) ++ { draft with open? := some range } :: rest, s)
  | drafts, _ => (drafts, s)

end Sharing

/-- The states of a set when its bytes are read forward. -/
def Tally.addForward (tally : Tally) (set : CharSet) : Tally :=
  let target := tally.states
  let (drafts, s) :=
    (sequencesOf set).foldl (fun (drafts, s) ranges => Sharing.push target drafts s ranges)
      ([{}], { tally := tally.plain 1 })
  let (drafts, s) := Sharing.close (drafts.length - 1) target drafts s
  match drafts with
  | root :: _ => (s.state root.edges.reverse).2.tally
  | [] => s.tally

/-! ## Reading backward -/

/-- The states made while sequences are read backward, and the known ones of them by
slot: a state reads one byte range and leads to an earlier state. -/
structure Chaining where
  tally : Tally
  known : Std.HashMap Nat (Edge × Nat) := ∅

/-- The state that reads the byte range and leads to `next`: the known one, or a new one. -/
def Chaining.state (s : Chaining) (next : Nat) (range : ByteRange) : Nat × Chaining :=
  let edge : Edge := ⟨range.1, range.2, next⟩
  let slot := slotOf 1000 [next, range.1, range.2]
  let fresh : Nat × Chaining :=
    (s.tally.states, ⟨s.tally.plain 1, s.known.insert slot (edge, s.tally.states)⟩)
  match s.known.get? slot with
  | some (same, id) => if same = edge then (id, s) else fresh
  | none => fresh

/-- The states of a set when its bytes are read backward. -/
def Tally.addBackward (tally : Tally) (set : CharSet) : Tally :=
  let sequences := sequencesOf set
  let start := (tally.fork sequences.length).plain 1
  let chain (s : Chaining) (ranges : List ByteRange) : Chaining :=
    (ranges.foldl (fun (next, s) range => s.state next range) (tally.states + 1, s)).2
  (sequences.foldl chain { tally := start }).tally

/-- The states of a set. -/
def Tally.addSet (tally : Tally) (reverse : Bool) (set : CharSet) : Tally :=
  if set.below 0x80 then (tally.plain 1).branching set.ranges.length
  else if reverse then tally.addBackward set
  else tally.addForward set

end Regex
end LiveConfig
