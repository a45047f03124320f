import LiveConfig.Text.Blank
import LiveConfig.Text.Utf8

/-!
# Server-sent events

A reader takes the bytes of a stream in chunks and completes an event at each empty
line that follows data.  It keeps the bytes of an unfinished line and the fields of
the block so far, so a chunk may end anywhere, also within a character.
-/

namespace LiveConfig
namespace Stream

structure Event where
  event : Option String
  id : Option String
  data : String
  deriving DecidableEq, Inhabited

/-- The fields of a block of lines so far. -/
structure Block where
  data : List String := []
  hasData : Bool := false
  event : Option String := none
  id : Option String := none
  deriving DecidableEq, Inhabited

/-- Ends the block with its event; a block without data has none. -/
def Block.dispatch (block : Block) : Block × Option Event :=
  if block.hasData then
    ({}, some ⟨block.event, block.id, String.intercalate "\n" block.data⟩)
  else ({ block with event := none, id := none }, none)

/-- The name and the value of the field on a line: a colon separates them, and one
space after it does not count. -/
def field (line : List Char) : String × String :=
  let name := line.takeWhile (· != ':')
  let value :=
    match line.dropWhile (· != ':') with
    | ':' :: ' ' :: value => value
    | ':' :: value => value
    | _ => []
  (String.ofList name, String.ofList value)

/-- Takes a field into the block; an unknown one leaves it as it is. -/
def Block.add (block : Block) : String × String → Block
  | ("data", value) => { block with data := block.data ++ [value], hasData := true }
  | ("event", value) => { block with event := some value }
  | ("id", value) => { block with id := some value }
  | _ => block

/-- Takes a line: an empty one ends the block, and one that begins with a colon is a
comment. -/
def Block.line (block : Block) (line : List Char) : Block × Option Event :=
  if line = [] then block.dispatch
  else if line.head? = some ':' then (block, none)
  else (block.add (field line), none)

def lineFeed : UInt8 := 0x0A

/-- The characters of a line, without a carriage return at its end. -/
def lineOf (bytes : List UInt8) : List Char :=
  let chars := (Utf8.decodeLossy bytes).toList
  if chars.getLast? = some '\r' then chars.dropLast else chars

/-- A stream as far as it is read: the bytes of its unfinished line, and the block that
it is in. -/
structure Reader where
  pending : List UInt8 := []
  block : Block := {}
  deriving DecidableEq, Inhabited

namespace Reader

/-- Takes the whole lines of the bytes, one after another; the rest stays pending. -/
def drain (block : Block) (bytes : List UInt8) : Reader × List Event :=
  match _hrest : bytes.dropWhile (· != lineFeed) with
  | [] => (⟨bytes, block⟩, [])
  | _ :: rest =>
    let (next, event) := block.line (lineOf (bytes.takeWhile (· != lineFeed)))
    let (last, more) := drain next rest
    (last, event.toList ++ more)
termination_by bytes.length
decreasing_by
  have hlength : (bytes.dropWhile (· != lineFeed)).length ≤ bytes.length :=
    (List.dropWhile_sublist _).length_le
  rw [_hrest, List.length_cons] at hlength
  omega

/-- Takes a chunk, and answers the events that it completes. -/
def feed (reader : Reader) (chunk : List UInt8) : Reader × List Event :=
  drain reader.block (reader.pending ++ chunk)

end Reader
end Stream
end LiveConfig
