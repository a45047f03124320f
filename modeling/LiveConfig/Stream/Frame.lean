import LiveConfig.Config.Wire
import LiveConfig.Stream.Event
import LiveConfig.Text.Base64

/-!
# Batches in the event stream

The data of an event is a batch in Base64.  An event whose data is blank, is no
Base64 or no batch, or holds a batch without a service pointer is passed over; it
still counts as data received.
-/

namespace LiveConfig
namespace Stream

def isAsciiBlank (b : UInt8) : Bool :=
  b == 0x20 || b == 0x09 || b == 0x0A || b == 0x0C || b == 0x0D

/-- The batch that the data of an event delivers. -/
def batchOfData? (data : String) : Option Batch := do
  let bytes ← Base64.decode? (Text.trim data)
  if bytes.all isAsciiBlank then none
  else
    let batch ← Batch.parse? bytes
    let _ ← batch.pointer
    return batch

/-- A part of a stream's body: bytes, or the break of the connection. -/
inductive Chunk
  | bytes (bytes : List UInt8)
  | broken (text : String)
  deriving Inhabited

/-- What a connection delivers: whether it received any event, the batches in order,
and the text of the break if it broke. -/
structure Delivery where
  received : Bool := false
  batches : List Batch := []
  broken : Option String := none
  deriving Inhabited

/-- Takes the data of an event. -/
def Delivery.take (delivery : Delivery) (data : String) : Delivery :=
  { delivery with
    received := true
    batches := delivery.batches ++ (batchOfData? data).toList }

/-- The events of the chunks up to a break, and the text of that. -/
def eventsOf (reader : Reader) : List Chunk → List Event × Option String
  | [] => ([], none)
  | .broken text :: _ => ([], some text)
  | .bytes bytes :: rest =>
    let (next, events) := reader.feed bytes
    let (more, broken) := eventsOf next rest
    (events ++ more, broken)

def deliver (chunks : List Chunk) : Delivery :=
  let (events, broken) := eventsOf {} chunks
  events.foldl (fun delivery event => delivery.take event.data) { broken }

end Stream
end LiveConfig
