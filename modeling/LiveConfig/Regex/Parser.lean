import LiveConfig.Regex.ClassName
import LiveConfig.Regex.Size
import LiveConfig.Unicode.Case

/-!
# The notation of patterns

Perl's notation without back references and look-around.  A flag directive such as
`(?i)` holds to the end of the group that it stands in.  With the flag `u` off only
ASCII may be named by classes.  Braces always begin a count, which needs a lower
bound.  Nesting is limited, and so is the size of the automaton.
-/

namespace LiveConfig
namespace Regex

structure Flags where
  caseless : Bool := false
  multiLine : Bool := false
  dotAll : Bool := false
  unicode : Bool := true
  anyLine : Bool := false
  spaced : Bool := false
  /-- Repetitions prefer few, and many where they are marked. -/
  lazy : Bool := false
  deriving Inhabited

/-! ## Blanks and comments -/

/-- Skips white space and comments where the flag `x` is on. -/
def skip (flags : Flags) : List Char → List Char
  | [] => []
  | c :: rest => if flags.spaced then go false (c :: rest) else c :: rest
where
  go (inComment : Bool) : List Char → List Char
    | [] => []
    | c :: rest =>
      if inComment then go (c != '\n') rest
      else if isBlank c then go false rest
      else if c = '#' then go true rest
      else c :: rest

/-- Drops one character and the blanks after it. -/
def advance (flags : Flags) (input : List Char) : List Char := skip flags (input.drop 1)

/-! ## Sets under flags -/

def asciiFold (set : CharSet) : CharSet :=
  let lower := CharSet.range 0x61 0x7A
  let upper := CharSet.range 0x41 0x5A
  let up := (set.inter lower).ranges.map fun r => (r.1 - 32, r.2 - 32)
  let down := (set.inter upper).ranges.map fun r => (r.1 + 32, r.2 + 32)
  CharSet.ofRanges (set.ranges ++ up ++ down)

def Flags.fold (flags : Flags) (set : CharSet) : CharSet :=
  if flags.caseless then (if flags.unicode then Unicode.foldClosure set else asciiFold set)
  else set

/-- The set of a class, closed under case before it is complemented.  Without the
flag `u` a complement would hold bytes that are no characters. -/
def Flags.finish (flags : Flags) (negated : Bool) (set : CharSet) : Option CharSet :=
  let set := flags.fold set
  if negated then (if flags.unicode then some set.compl else none) else some set

/-- The classes `d`, `s` and `w`, and their complements in capitals. -/
def Flags.perlClass (flags : Flags) (kind : Char) : Option CharSet :=
  let base : CharSet :=
    match kind.toLower, flags.unicode with
    | 'd', true => Unicode.digitSet
    | 's', true => Unicode.spaceSet
    | _, true => Unicode.wordSet
    | 'd', false => (asciiClass? "digit").getD .empty
    | 's', false => (asciiClass? "space").getD .empty
    | _, false => (asciiClass? "word").getD .empty
  if kind.isUpper then (if flags.unicode then some base.compl else none) else some base

/-! ## Escapes -/

/-- What an escape or a plain character stands for. -/
inductive Atom
  /-- A character; `asByte` where it is written as a byte by two hexadecimal digits. -/
  | char (c : Char) (asByte : Bool)
  | set (set : CharSet)
  | look (look : Look)

def isHex (c : Char) : Bool :=
  isDigit c || ('a' ≤ c && c ≤ 'f') || ('A' ≤ c && c ≤ 'F')

/-- The character of a hexadecimal code. -/
def charOfHex? (digits : List Char) : Option Char :=
  let n := Unicode.natOfHex digits
  if n < 0x110000 ∧ ¬(0xD800 ≤ n ∧ n < 0xE000) then some (Char.ofNat n) else none

/-- Exactly `count` hexadecimal digits. -/
def hexDigits (flags : Flags) : Nat → List Char → List Char → Option (List Char × List Char)
  | 0, done, input => some (done.reverse, input)
  | count + 1, done, c :: rest =>
    if isHex c then hexDigits flags count (c :: done) (skip flags rest) else none
  | _ + 1, _, [] => none

/-- The characters up to a closing brace, blanks skipped where the flags say so. -/
def braced (flags : Flags) : Nat → List Char → List Char → Option (List Char × List Char)
  | 0, _, _ => none
  | _ + 1, _, [] => none
  | fuel + 1, done, c :: rest =>
    if c = '\x7d' then some (done.reverse, rest)
    else braced flags fuel (c :: done) (skip flags rest)

def parseHex (flags : Flags) (kind : Char) (input : List Char) : Option (Atom × List Char) :=
  match skip flags input with
  | '\x7b' :: rest =>
    match braced flags (rest.length + 1) [] (skip flags rest) with
    | some (digits, rest) =>
      if digits ≠ [] ∧ digits.all isHex then
        (charOfHex? digits).map fun c => (.char c false, skip flags rest)
      else none
    | none => none
  | rest =>
    let count := if kind = 'x' then 2 else if kind = 'u' then 4 else 8
    match hexDigits flags count [] rest with
    | some (digits, rest) => (charOfHex? digits).map fun c => (.char c (kind = 'x'), rest)
    | none => none

/-- Splits at the first occurrence of a separator. -/
def splitAt? (separator : List Char) : List Char → Option (List Char × List Char)
  | [] => none
  | c :: rest =>
    match Text.afterStart? separator (c :: rest) with
    | some value => some ([], value)
    | none => (splitAt? separator rest).map fun (name, value) => (c :: name, value)

def parseUnicodeClass (flags : Flags) (negated : Bool) (input : List Char) :
    Option (Atom × List Char) :=
  let finish (negated : Bool) (set : Option CharSet) (rest : List Char) :
      Option (Atom × List Char) :=
    if flags.unicode then
      (set.bind (flags.finish negated)).map fun set => (.set set, rest)
    else none
  match skip flags input with
  | [] => none
  | '\x7b' :: rest =>
    match braced flags (rest.length + 1) [] (skip flags rest) with
    | none => none
    | some (name, rest) =>
      let parts : Option (List Char × List Char) :=
        match splitAt? [':'] name with
        | some parts => some parts
        | none => splitAt? ['='] name
      match splitAt? ['!', '='] name, parts with
      | some (property, value), _ => finish (!negated) (unicodeClassOf? property value) rest
      | none, some (property, value) => finish negated (unicodeClassOf? property value) rest
      | none, none => finish negated (unicodeClass? name) rest
  | c :: rest =>
    if c = '\\' then none else finish negated (unicodeClass? [c]) (skip flags rest)

/-- The kinds of word boundary that are named in braces. -/
def namedBoundary? (unicode : Bool) (name : List Char) : Option Look :=
  match String.ofList name with
  | "start" => some (.wordStart unicode)
  | "end" => some (.wordEnd unicode)
  | "start-half" => some (.wordStartHalf unicode)
  | "end-half" => some (.wordEndHalf unicode)
  | _ => none

/-- A word boundary, of a named kind if a brace with a letter follows. -/
def parseBoundary (flags : Flags) (input : List Char) : Option (Atom × List Char) :=
  let isNameChar (c : Char) : Bool := c.isAlpha || c == '-'
  match input with
  | '\x7b' :: rest =>
    match skip flags rest with
    | [] => none
    | c :: more =>
      if isNameChar c then
        match braced flags (more.length + 2) [] (c :: more) with
        | some (name, rest) => (namedBoundary? flags.unicode name).map fun l => (.look l, rest)
        | none => none
      else some (.look (.wordBoundary flags.unicode), input)
  | _ => some (.look (.wordBoundary flags.unicode), input)

/-- The characters that an escape leaves as they are: all of ASCII but letters, digits
and angle brackets. -/
def isEscapable (c : Char) : Bool := c.toNat < 0x80 && !c.isAlphanum && c != '<' && c != '>'

/-- What follows a backslash. -/
def parseEscape (flags : Flags) : List Char → Option (Atom × List Char)
  | [] => none
  | c :: rest =>
    let plain (c : Char) : Option (Atom × List Char) := some (.char c false, rest)
    if isEscapable c then plain c
    else
      match c with
      | 'x' | 'u' | 'U' => parseHex flags c rest
      | 'p' => parseUnicodeClass flags false rest
      | 'P' => parseUnicodeClass flags true rest
      | 'd' | 's' | 'w' | 'D' | 'S' | 'W' =>
        (flags.perlClass c).map fun set => (.set set, rest)
      | 'a' => plain '\x07'
      | 'f' => plain '\x0c'
      | 't' => plain '\t'
      | 'n' => plain '\n'
      | 'r' => plain '\r'
      | 'v' => plain '\x0b'
      | 'A' => some (.look .textStart, rest)
      | 'z' => some (.look .textEnd, rest)
      | 'b' => parseBoundary flags rest
      | 'B' => some (.look (.notWordBoundary flags.unicode), rest)
      | '<' => some (.look (.wordStart flags.unicode), rest)
      | '>' => some (.look (.wordEnd flags.unicode), rest)
      | _ => none

/-! ## Bracketed classes -/

inductive SetOperator
  | inter
  | diff
  | symmDiff

def SetOperator.apply : SetOperator → CharSet → CharSet → CharSet
  | inter => CharSet.inter
  | diff => CharSet.diff
  | symmDiff => CharSet.symmDiff

/-- A class as far as it is read: its items since the last operator, and the operator
with what stands before it. -/
structure ClassState where
  items : CharSet := .empty
  count : Nat := 0
  depth : Nat := 0
  pending : Option (SetOperator × CharSet × Nat) := none

def ClassState.add (state : ClassState) (set : CharSet) (depth : Nat) : ClassState :=
  { state with
    items := state.items.union set, count := state.count + 1, depth := max state.depth depth }

/-- The set of what is read, and how deep it nests. -/
def ClassState.value (state : ClassState) (flags : Flags) : CharSet × Nat :=
  let depth := if 1 < state.count then state.depth + 1 else state.depth
  match state.pending with
  | none => (state.items, depth)
  | some (op, left, leftDepth) =>
    (op.apply (flags.fold left) (flags.fold state.items), max leftDepth depth + 1)

def ClassState.operate (state : ClassState) (flags : Flags) (op : SetOperator) : ClassState :=
  let (set, depth) := state.value flags
  { pending := some (op, set, depth) }

/-- The set of an atom as an item of a class. -/
def Atom.item (flags : Flags) : Atom → Option CharSet
  | char c _ => if flags.unicode || c.toNat < 0x80 then some (.single c.toNat) else none
  | set s => some s
  | look _ => none

def parseClassAtom (flags : Flags) : List Char → Option (Atom × List Char)
  | [] => none
  | '\\' :: rest => parseEscape flags rest
  | c :: rest => some (.char c false, rest)

/-- A single item of a class, or a range. -/
def parseRange (flags : Flags) (input : List Char) : Option (CharSet × List Char) := do
  let (first, rest) ← parseClassAtom flags input
  match skip flags rest with
  | [] => none
  | '-' :: more =>
    match skip flags more with
    | [] => none
    | ']' :: _ | '-' :: _ => (first.item flags).map fun set => (set, '-' :: more)
    | next =>
      let (last, rest) ← parseClassAtom flags next
      match first, last with
      | .char a _, .char b _ =>
        let _ ← first.item flags
        let _ ← last.item flags
        if a.toNat ≤ b.toNat then some (.range a.toNat b.toNat, rest) else none
      | _, _ => none
  | rest => (first.item flags).map fun set => (set, rest)

/-- A named ASCII class, whose opening bracket is read. -/
def parseAsciiClass (flags : Flags) (input : List Char) : Option (Option CharSet × List Char) :=
  match input with
  | ':' :: rest =>
    let (negated, rest) :=
      match rest with
      | '^' :: r => (true, r)
      | r => (false, r)
    let name := rest.takeWhile (· != ':')
    match rest.dropWhile (· != ':') with
    | ':' :: ']' :: rest =>
      (asciiClass? (String.ofList name)).map fun set => (flags.finish negated set, rest)
    | _ => none
  | _ => none

/-- The hyphens at the start of a class, and a closing bracket if there are none. -/
def leadingItems (flags : Flags) : Nat → ClassState → List Char → ClassState × List Char
  | 0, state, input => (state, input)
  | fuel + 1, state, input =>
    match input with
    | '-' :: rest => leadingItems flags fuel (state.add (.single 0x2D) 0) (skip flags rest)
    | ']' :: rest =>
      if state.count = 0 then (state.add (.single 0x5D) 0, skip flags rest) else (state, input)
    | _ => (state, input)

/-- A class from where its items begin, up to its closing bracket. -/
def parseClassItems (flags : Flags) :
    Nat → Bool → ClassState → List Char → Option (CharSet × Nat × List Char)
  | 0, _, _, _ => none
  | fuel + 1, negated, state, input =>
    match skip flags input with
    | [] => none
    | '[' :: rest =>
      match parseAsciiClass flags rest with
      | some (some set, rest) => parseClassItems flags fuel negated (state.add set 0) rest
      | some (none, _) => none
      | none =>
        let (inner, body) := opening rest
        let (start, body) := leadingItems flags body.length {} body
        match parseClassItems flags fuel inner start body with
        | some (set, depth, rest) =>
          parseClassItems flags fuel negated (state.add set depth) rest
        | none => none
    | ']' :: rest =>
      let (set, depth) := state.value flags
      (flags.finish negated set).map fun set => (set, depth + 1, rest)
    | '&' :: '&' :: rest => parseClassItems flags fuel negated (state.operate flags .inter) rest
    | '-' :: '-' :: rest => parseClassItems flags fuel negated (state.operate flags .diff) rest
    | '~' :: '~' :: rest => parseClassItems flags fuel negated (state.operate flags .symmDiff) rest
    | rest =>
      match parseRange flags rest with
      | some (set, rest) => parseClassItems flags fuel negated (state.add set 0) rest
      | none => none
where
  /-- Whether a class begins with a caret, and what follows. -/
  opening (input : List Char) : Bool × List Char :=
    match skip flags input with
    | '^' :: rest => (true, skip flags rest)
    | rest => (false, rest)

/-- A class, whose opening bracket is read. -/
def parseClass (flags : Flags) (input : List Char) : Option (CharSet × Nat × List Char) :=
  let (negated, body) := parseClassItems.opening flags input
  let (start, body) := leadingItems flags body.length {} body
  parseClassItems flags (body.length + 1) negated start body

/-! ## Repetitions -/

/-- A number between blanks. -/
def parseCount (flags : Flags) (input : List Char) : Option Nat × List Char :=
  let digits (input : List Char) : List Char × List Char :=
    let rec go : Nat → List Char → List Char → List Char × List Char
      | 0, done, input => (done.reverse, input)
      | fuel + 1, done, c :: rest =>
        if isDigit c then go fuel (c :: done) (skip flags rest) else (done.reverse, c :: rest)
      | _ + 1, done, [] => (done.reverse, [])
    go input.length [] input
  let (ds, rest) := digits (input.dropWhile isBlank)
  let rest := skip flags (rest.dropWhile isBlank)
  if ds = [] then (none, rest) else (some (natOfDigits ds), rest)

/-- The bounds of a counted repetition, whose opening brace is read. -/
def parseBounds (flags : Flags) (input : List Char) : Option (Nat × Option Nat × List Char) :=
  let close (least : Nat) (most : Option Nat) (rest : List Char) :
      Option (Nat × Option Nat × List Char) :=
    match rest with
    | '\x7d' :: rest =>
      let bound := 0x100000000
      if least < bound ∧ most.all (fun m => decide (least ≤ m ∧ m < bound)) then
        some (least, most, skip flags rest)
      else none
    | _ => none
  match parseCount flags (skip flags input) with
  | (some least, ',' :: rest) =>
    match skip flags rest with
    | '\x7d' :: rest => close least none ('\x7d' :: rest)
    | rest =>
      match parseCount flags rest with
      | (some most, rest) => close least (some most) rest
      | (none, _) => none
  | (some least, rest) => close least (some least) rest
  | (none, _) => none

/-! ## Groups and flags -/

def nameLetters : CharSet := Unicode.alphabeticSet .v17

def nameNumbers : CharSet := Unicode.categorySet .v17 ["Nd", "Nl", "No"]

def isNameStart (c : Char) : Bool := c == '_' || nameLetters.mem c

def isNameChar (c : Char) : Bool :=
  isNameStart c || c == '.' || c == '[' || c == ']' || nameNumbers.mem c

/-- The name of a group up to its angle bracket. -/
def parseGroupName (input : List Char) : Option (List Char × List Char) :=
  let name := input.takeWhile (· != '>')
  match name, input.dropWhile (· != '>') with
  | c :: more, '>' :: rest =>
    if isNameStart c && more.all isNameChar then some (name, rest) else none
  | _, _ => none

def Flags.set (flags : Flags) (value : Bool) : Char → Option Flags
  | 'i' => some { flags with caseless := value }
  | 'm' => some { flags with multiLine := value }
  | 's' => some { flags with dotAll := value }
  | 'U' => some { flags with lazy := value }
  | 'u' => some { flags with unicode := value }
  | 'R' => some { flags with anyLine := value }
  | 'x' => some { flags with spaced := value }
  | _ => none

/-- Flag letters up to a colon or a closing parenthesis: the flags that they set,
whether there are any, whether it is a colon, and the rest. -/
def parseFlags (flags : Flags) : (seen : List Char) → List Char →
    Option (Flags × Bool × Bool × List Char)
  | _, [] => none
  | seen, c :: rest =>
    if c = ':' ∨ c = ')' then
      if seen.head? = some '-' then none else some (flags, seen ≠ [], c = ':', rest)
    else if seen.contains c then none
    else if c = '-' then parseFlags flags (c :: seen) rest
    else
      match flags.set (!seen.contains '-') c with
      | some flags => parseFlags flags (c :: seen) rest
      | none => none

/-! ## Patterns -/

/-- A part of a sequence; a directive sets flags and cannot be repeated. -/
structure Item where
  pattern : Pattern
  depth : Nat := 0
  directive : Bool := false
  deriving Inhabited

/-- What is still to be read, the flags that hold there, the names of the groups so far
and the number of groups. -/
structure Input where
  rest : List Char
  flags : Flags
  names : List (List Char)
  groups : Nat

def sequenceOf (items : List Item) : Item :=
  match items with
  | [] => ⟨.empty, 0, false⟩
  | [item] => item
  | items =>
    ⟨.sequence (items.map (·.pattern)), (items.foldl (fun d i => max d i.depth) 0) + 1, false⟩

def alternativesOf (branches : List Item) : Item :=
  match branches with
  | [] => ⟨.empty, 0, false⟩
  | [branch] => branch
  | branches =>
    ⟨.alternatives (branches.map (·.pattern)),
      (branches.foldl (fun d i => max d i.depth) 0) + 1, false⟩

def Flags.setPattern (flags : Flags) (set : CharSet) : Pattern := .ofSet set (!flags.unicode)

def Flags.charPattern (flags : Flags) (c : Char) : Pattern :=
  flags.setPattern (flags.fold (.single c.toNat))

/-- The pattern of an atom outside of classes. -/
def Atom.pattern (flags : Flags) : Atom → Option Pattern
  | char c asByte =>
    if !flags.unicode && asByte && 0x80 ≤ c.toNat then none else some (flags.charPattern c)
  | set s => some (flags.setPattern s)
  | look l => some (.look l)

def dotSet (flags : Flags) : Option CharSet :=
  if !flags.unicode then none
  else if flags.dotAll then some .all
  else if flags.anyLine then some (CharSet.ofTable "a d").compl
  else some (CharSet.single 0x0A).compl

def Flags.caret (flags : Flags) : Look :=
  if flags.multiLine then (if flags.anyLine then .anyLineStart else .lineStart) else .textStart

def Flags.dollar (flags : Flags) : Look :=
  if flags.multiLine then (if flags.anyLine then .anyLineEnd else .lineEnd) else .textEnd

/-- Whether a repetition is greedy, which the mark turns round, and what follows. -/
def readGreed (flags : Flags) : List Char → Bool × List Char
  | '?' :: rest => (flags.lazy, rest)
  | rest => (!flags.lazy, rest)

/-- The sequence with its last item repeated. -/
def repeatLast (least : Nat) (most : Option Nat) (greedy : Bool) :
    List Item → Option (List Item)
  | [] => none
  | item :: done =>
    if item.directive then none
    else some (⟨item.pattern.repeated least most greedy, item.depth + 1, false⟩ :: done)

mutual

/-- Alternatives up to a closing parenthesis or the end. -/
def parseBranches : Nat → Input → Option (List Item × Input)
  | 0, _ => none
  | fuel + 1, input =>
    match parseSequence fuel [] input with
    | none => none
    | some (items, input) =>
      match input.rest with
      | '|' :: rest =>
        match parseBranches fuel { input with rest } with
        | some (branches, input) => some (sequenceOf items :: branches, input)
        | none => none
      | _ => some ([sequenceOf items], input)

/-- A sequence up to a bar, a closing parenthesis or the end; the items read so far
are in reverse. -/
def parseSequence : Nat → List Item → Input → Option (List Item × Input)
  | 0, _, _ => none
  | fuel + 1, done, input =>
    let flags := input.flags
    let add (item : Item) (rest : List Char) : Option (List Item × Input) :=
      parseSequence fuel (item :: done) { input with rest }
    let again (least : Nat) (most : Option Nat) (rest : List Char) :
        Option (List Item × Input) :=
      let (greedy, rest) := readGreed flags rest
      match repeatLast least most greedy done with
      | some done => parseSequence fuel done { input with rest }
      | none => none
    match skip flags input.rest with
    | [] => some (done.reverse, { input with rest := [] })
    | '|' :: rest => some (done.reverse, { input with rest := '|' :: rest })
    | ')' :: rest => some (done.reverse, { input with rest := ')' :: rest })
    | '(' :: rest =>
      match parseGroup fuel { input with rest := skip flags rest } with
      | some (item, input) => parseSequence fuel (item :: done) input
      | none => none
    | '[' :: rest =>
      match parseClass flags rest with
      | some (set, depth, rest) => add ⟨flags.setPattern set, depth, false⟩ rest
      | none => none
    | '?' :: rest => again 0 (some 1) rest
    | '*' :: rest => again 0 none rest
    | '+' :: rest => again 1 none rest
    | '\x7b' :: rest =>
      match parseBounds flags rest with
      | some (least, most, rest) => again least most rest
      | none => none
    | '\\' :: rest =>
      match parseEscape flags rest with
      | some (atom, rest) =>
        match atom.pattern flags with
        | some pattern => add ⟨pattern, 0, false⟩ rest
        | none => none
      | none => none
    | '.' :: rest =>
      match dotSet flags with
      | some set => add ⟨flags.setPattern set, 0, false⟩ rest
      | none => none
    | '^' :: rest => add ⟨.look flags.caret, 0, false⟩ rest
    | '$' :: rest => add ⟨.look flags.dollar, 0, false⟩ rest
    | c :: rest => add ⟨flags.charPattern c, 0, false⟩ rest

/-- A group or a flag directive, whose opening parenthesis is read. -/
def parseGroup : Nat → Input → Option (Item × Input)
  | 0, _ => none
  | fuel + 1, input =>
    let inner (body : Input) (wrap : Pattern → Pattern) : Option (Item × Input) :=
      match parseBranches fuel body with
      | some (branches, after) =>
        match after.rest with
        | ')' :: rest =>
          let item := alternativesOf branches
          let group : Item := ⟨wrap item.pattern, item.depth + 1, false⟩
          some (group, { after with rest, flags := input.flags })
        | _ => none
      | none => none
    let kept (names : List (List Char)) (rest : List Char) : Option (Item × Input) :=
      let index := input.groups + 1
      inner { input with rest, names, groups := index } (.group index)
    let named (rest : List Char) : Option (Item × Input) :=
      match parseGroupName rest with
      | some (name, rest) =>
        if input.names.contains name then none else kept (name :: input.names) rest
      | none => none
    match input.rest with
    | '?' :: 'P' :: '<' :: rest => named rest
    | '?' :: '<' :: '=' :: _ | '?' :: '<' :: '!' :: _ => none
    | '?' :: '<' :: rest => named rest
    | '?' :: rest =>
      match parseFlags input.flags [] rest with
      | some (flags, any, colon, rest) =>
        if colon then inner { input with rest, flags } id
        else if any then some (⟨.empty, 0, true⟩, { input with rest, flags })
        else none
      | none => none
    | rest => kept input.names rest

end

/-- How deep the parts of a pattern may nest. -/
def depthLimit : Nat := 250

/-- The pattern that a text denotes. -/
def parse? (text : String) : Option Pattern :=
  let chars := text.toList
  match parseBranches (3 * chars.length + 3) ⟨chars, {}, [], 0⟩ with
  | some (branches, input) =>
    let item := alternativesOf branches
    if input.rest = [] ∧ item.depth ≤ depthLimit ∧ item.pattern.fits then
      some item.pattern
    else none
  | none => none

/-- Whether a text has a match of a pattern; none if the pattern is not one. -/
def isMatch? (pattern text : String) : Option Bool :=
  (parse? pattern).map fun p => p.isMatch text.toList

end Regex
end LiveConfig
