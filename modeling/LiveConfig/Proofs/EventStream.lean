import LiveConfig.Proofs.Distinct
import LiveConfig.Stream.Event
import Mathlib.Data.List.TakeWhile

/-!
# Reading a stream by blocks

The reference reading looks at the whole stream: it is cut at every line feed, the
lines at every empty one, and each block that has data makes one event
(`Stream.reading`).  A reader that takes the stream in chunks completes the same
events, and its state does not depend on where the chunks end
(`Stream.Reader.feedAll_eq_reading`).

The induction over chunks rests on `drain_append`: what is left of the first bytes
together with the next ones is drained as if they had come at once.  The induction
over lines keeps the block of the reader equal to the fields of the lines since the
last empty one (`Block.ofLines`).
-/

namespace LiveConfig
namespace Stream

/-! ## The reference reading -/

/-- The lines of a stream; what follows the last line feed is no line. -/
def linesOf (bytes : List UInt8) : List (List Char) :=
  (bytes.splitOn lineFeed).dropLast.map lineOf

/-- The runs of lines that an empty line ends. -/
def blocksOf (lines : List (List Char)) : List (List (List Char)) :=
  (lines.splitOn []).dropLast

/-- The name and the value on a line, unless it is a comment.  Without a colon the value
is empty; one space before the value does not belong to it. -/
def fieldOn? (line : List Char) : Option (String × String) :=
  if line.head? = some ':' then none
  else
    let name := line.takeWhile (· != ':')
    let value := line.drop (name.length + 1)
    some (String.ofList name,
      String.ofList (if value.head? = some ' ' then value.drop 1 else value))

/-- The values of the fields with a name, in order. -/
def valuesOf (name : String) (block : List (List Char)) : List String :=
  (block.filterMap fieldOn?).filterMap fun entry =>
    if entry.1 = name then some entry.2 else none

/-- The event of a block; of two fields with one name the later counts, but data is
joined by newlines.  A block without data makes no event. -/
def eventOf? (block : List (List Char)) : Option Event :=
  if valuesOf "data" block = [] then none
  else
    some
      { event := (valuesOf "event" block).getLast?
        id := (valuesOf "id" block).getLast?
        data := String.intercalate "\n" (valuesOf "data" block) }

/-- The events of a whole stream. -/
def reading (bytes : List UInt8) : List Event := (blocksOf (linesOf bytes)).filterMap eventOf?

/-! ## Lines -/

theorem field_eq (line : List Char) :
    field line = (String.ofList (line.takeWhile (· != ':')),
      String.ofList
        (let value := line.drop ((line.takeWhile (· != ':')).length + 1)
        if value.head? = some ' ' then value.drop 1 else value)) := by
  have hsplit : line.drop (line.takeWhile (· != ':')).length = line.dropWhile (· != ':') := by
    induction line with
    | nil => rfl
    | cons c rest ih =>
        by_cases hc : c = ':'
        · simp [hc]
        · simpa [hc] using ih
  unfold field
  rw [← List.drop_drop, hsplit]
  cases hrest : line.dropWhile (· != ':') with
  | nil => simp
  | cons c rest =>
      have hcolon : c = ':' := by
        have hhead := List.head?_dropWhile_not (· != ':') line
        simpa [hrest] using hhead
      subst hcolon
      cases rest with
      | nil => simp
      | cons d rest =>
          by_cases hd : d = ' '
          · simp [hd]
          · simp [hd]

theorem fieldOn?_eq (line : List Char) :
    fieldOn? line = if line.head? = some ':' then none else some (field line) := by
  rw [field_eq]
  rfl

/-- The block that a reader is in after the given lines since the last empty one. -/
def Block.ofLines (lines : List (List Char)) : Block :=
  { data := valuesOf "data" lines
    hasData := !(valuesOf "data" lines).isEmpty
    event := (valuesOf "event" lines).getLast?
    id := (valuesOf "id" lines).getLast? }

theorem valuesOf_concat (name : String) (lines : List (List Char)) (line : List Char) :
    valuesOf name (lines ++ [line]) =
      valuesOf name lines ++ ((fieldOn? line).bind fun entry =>
        if entry.1 = name then some entry.2 else none).toList := by
  unfold valuesOf
  cases hfield : fieldOn? line with
  | none => simp [hfield]
  | some entry =>
      by_cases hname : entry.1 = name
      · simp [hfield, hname]
      · simp [hfield, hname]

theorem dispatch_ofLines (lines : List (List Char)) :
    (Block.ofLines lines).line [] = ({}, eventOf? lines) := by
  cases hdata : valuesOf "data" lines with
  | nil => simp [Block.line, Block.dispatch, Block.ofLines, eventOf?, hdata]
  | cons value more => simp [Block.line, Block.dispatch, Block.ofLines, eventOf?, hdata]

theorem line_ofLines (lines : List (List Char)) {line : List Char} (hline : line ≠ []) :
    (Block.ofLines lines).line line = (Block.ofLines (lines ++ [line]), none) := by
  unfold Block.line
  rw [if_neg hline]
  split
  · rename_i hcomment
    simp [Block.ofLines, valuesOf_concat, fieldOn?_eq, hcomment]
  · rename_i hcomment
    have hfield : fieldOn? line = some (field line) := by rw [fieldOn?_eq, if_neg hcomment]
    unfold Block.add
    split
    · rename_i value heq
      simp [Block.ofLines, valuesOf_concat, hfield, heq]
    · rename_i value heq
      simp [Block.ofLines, valuesOf_concat, hfield, heq]
    · rename_i value heq
      simp [Block.ofLines, valuesOf_concat, hfield, heq]
    · rename_i hdata hevent hid
      have hdata' : (field line).1 ≠ "data" := fun h => hdata (field line).2 (Prod.ext h rfl)
      have hevent' : (field line).1 ≠ "event" := fun h => hevent (field line).2 (Prod.ext h rfl)
      have hid' : (field line).1 ≠ "id" := fun h => hid (field line).2 (Prod.ext h rfl)
      simp [Block.ofLines, valuesOf_concat, hfield, hdata', hevent', hid']

/-- Takes lines one after another. -/
def Block.lines (block : Block) : List (List Char) → Block × List Event
  | [] => (block, [])
  | line :: rest =>
    let (next, event) := block.line line
    let (last, more) := next.lines rest
    (last, event.toList ++ more)

theorem blocksOf_block {block : List (List Char)} (hblock : [] ∉ block)
    (rest : List (List Char)) : blocksOf (block ++ [] :: rest) = block :: blocksOf rest := by
  unfold blocksOf
  rw [List.splitOn_append_cons_self_of_not_mem hblock]
  exact List.dropLast_cons_of_ne_nil (List.splitOn_ne_nil _ _)

/-- The events of the lines are those of the blocks that they complete. -/
theorem lines_ofLines {taken : List (List Char)} (htaken : [] ∉ taken)
    (rest : List (List Char)) :
    ((Block.ofLines taken).lines rest).2 = (blocksOf (taken ++ rest)).filterMap eventOf? := by
  induction rest generalizing taken with
  | nil =>
      have hopen : blocksOf (taken ++ []) = [] := by
        rw [List.append_nil, blocksOf, List.splitOn_eq_singleton htaken]
        rfl
      rw [hopen]
      rfl
  | cons line rest ih =>
      by_cases hline : line = []
      · subst hline
        have hrest : ((Block.ofLines []).lines rest).2 = (blocksOf rest).filterMap eventOf? :=
          ih List.not_mem_nil
        have hstep : ((Block.ofLines taken).lines ([] :: rest)).2 =
            (eventOf? taken).toList ++ ((Block.ofLines []).lines rest).2 := by
          simp only [Block.lines, dispatch_ofLines]
          rfl
        rw [hstep, hrest, blocksOf_block htaken]
        cases hevent : eventOf? taken with
        | none => simp [hevent]
        | some event => simp [hevent]
      · have hnext : [] ∉ taken ++ [line] := by simp [htaken, Ne.symm hline]
        have hstep : ((Block.ofLines taken).lines (line :: rest)).2 =
            ((Block.ofLines (taken ++ [line])).lines rest).2 := by
          simp only [Block.lines, line_ofLines taken hline]
          rfl
        rw [hstep, ih hnext, List.append_assoc]
        rfl

namespace Reader

/-! ## Chunks -/

variable {bytes line : List UInt8}

/-- A stream is an unfinished line, or a line before another stream. -/
@[elab_as_elim]
theorem lines_induction {motive : List UInt8 → Prop}
    (tail : ∀ bytes, lineFeed ∉ bytes → motive bytes)
    (line : ∀ line rest, lineFeed ∉ line → motive rest → motive (line ++ lineFeed :: rest))
    (bytes : List UInt8) : motive bytes := by
  induction hlength : bytes.length using Nat.strongRecOn generalizing bytes with
  | _ n ih =>
      by_cases hmem : lineFeed ∈ bytes
      · obtain ⟨first, rest, rfl, hfirst⟩ := List.eq_append_cons_of_mem hmem
        apply line first rest hfirst
        apply ih rest.length _ rest rfl
        rw [← hlength, List.length_append, List.length_cons]
        omega
      · exact tail bytes hmem

theorem drain_of_not_mem (h : lineFeed ∉ bytes) (block : Block) :
    drain block bytes = (⟨bytes, block⟩, []) := by
  have hnone : bytes.dropWhile (· != lineFeed) = [] :=
    List.dropWhile_eq_nil_iff.mpr (bne_of_notMem h)
  unfold drain
  split
  · rfl
  · rename_i hrest
    simp [hnone] at hrest

theorem drain_line (h : lineFeed ∉ line) (block : Block) (rest : List UInt8) :
    drain block (line ++ lineFeed :: rest) =
      ((drain (block.line (lineOf line)).1 rest).1,
        (block.line (lineOf line)).2.toList ++ (drain (block.line (lineOf line)).1 rest).2) := by
  have hdrop : (line ++ lineFeed :: rest).dropWhile (· != lineFeed) = lineFeed :: rest := by
    rw [List.dropWhile_append_of_pos (bne_of_notMem h)]
    simp
  have htake : (line ++ lineFeed :: rest).takeWhile (· != lineFeed) = line := by
    rw [List.takeWhile_append_of_pos (bne_of_notMem h)]
    simp
  rw [drain]
  split
  · rename_i hnone
    simp [hdrop] at hnone
  · rename_i rest' hrest
    rw [hdrop, List.cons.injEq] at hrest
    rw [htake, hrest.2]

/-- Bytes that are left over and the next ones are drained as if they had come at once. -/
theorem drain_append (block : Block) (xs ys : List UInt8) :
    drain block (xs ++ ys) =
      ((drain (drain block xs).1.block ((drain block xs).1.pending ++ ys)).1,
        (drain block xs).2 ++
          (drain (drain block xs).1.block ((drain block xs).1.pending ++ ys)).2) := by
  induction xs using lines_induction generalizing block with
  | tail xs h => simp [drain_of_not_mem h]
  | line line rest h ih =>
      rw [List.append_assoc, List.cons_append, drain_line h, drain_line h, ih]
      simp

theorem not_mem_pending_drain (block : Block) (bytes : List UInt8) :
    lineFeed ∉ (drain block bytes).1.pending := by
  induction bytes using lines_induction generalizing block with
  | tail bytes h =>
      rw [drain_of_not_mem h]
      exact h
  | line line rest h ih =>
      rw [drain_line h]
      exact ih _

theorem drain_eq_lines (block : Block) (bytes : List UInt8) :
    (drain block bytes).2 = (block.lines (linesOf bytes)).2 := by
  induction bytes using lines_induction generalizing block with
  | tail bytes h =>
      have hlines : linesOf bytes = [] := by
        rw [linesOf, List.splitOn_eq_singleton h]
        rfl
      rw [drain_of_not_mem h, hlines]
      rfl
  | line line rest h ih =>
      have hlines : linesOf (line ++ lineFeed :: rest) = lineOf line :: linesOf rest := by
        unfold linesOf
        rw [List.splitOn_append_cons_self_of_not_mem h,
          List.dropLast_cons_of_ne_nil (List.splitOn_ne_nil _ _), List.map_cons]
      rw [drain_line h, hlines, ih]
      rfl

/-- Takes chunks one after another, and answers the events that each of them completes. -/
def feedAll (reader : Reader) : List (List UInt8) → Reader × List (List Event)
  | [] => (reader, [])
  | chunk :: rest =>
    let (next, events) := reader.feed chunk
    let (last, more) := next.feedAll rest
    (last, events :: more)

theorem feed_append (reader : Reader) (xs ys : List UInt8) :
    reader.feed (xs ++ ys) =
      (((reader.feed xs).1.feed ys).1, (reader.feed xs).2 ++ ((reader.feed xs).1.feed ys).2) := by
  unfold feed
  rw [← List.append_assoc, drain_append]

/-- A reader that holds no whole line takes chunks as it takes their bytes at once. -/
theorem feedAll_flatten {reader : Reader} (hreader : lineFeed ∉ reader.pending)
    (chunks : List (List UInt8)) :
    ((reader.feedAll chunks).1, (reader.feedAll chunks).2.flatten) =
      reader.feed chunks.flatten := by
  induction chunks generalizing reader with
  | nil =>
      simp only [feed, List.flatten_nil, List.append_nil, drain_of_not_mem hreader]
      rfl
  | cons chunk rest ih =>
      have hnext : lineFeed ∉ (reader.feed chunk).1.pending := not_mem_pending_drain _ _
      rw [List.flatten_cons, feed_append, ← ih hnext]
      rfl

theorem feed_eq_reading (bytes : List UInt8) : (({} : Reader).feed bytes).2 = reading bytes := by
  have hdrain := drain_eq_lines {} bytes
  rw [show ({} : Block) = Block.ofLines [] from rfl, lines_ofLines List.not_mem_nil] at hdrain
  exact hdrain

/-- However a stream is cut into chunks, a new reader is left in the same state and
completes the same events: those of the reference reading. -/
theorem feedAll_eq_reading (chunks : List (List UInt8)) :
    (({} : Reader).feedAll chunks).1 = (({} : Reader).feed chunks.flatten).1 ∧
    (({} : Reader).feedAll chunks).2.flatten = (({} : Reader).feed chunks.flatten).2 ∧
    (({} : Reader).feedAll chunks).2.flatten = reading chunks.flatten := by
  have hchunks := feedAll_flatten (show lineFeed ∉ ({} : Reader).pending by simp) chunks
  refine ⟨congrArg Prod.fst hchunks, congrArg Prod.snd hchunks, ?_⟩
  rw [← feed_eq_reading]
  exact congrArg Prod.snd hchunks

-- the first block has no data, and the last one is not ended
example :
    reading (Utf8.encode "event: a\n\ndata: b\r\n:c\ndata\nid:7\n\ndata: d\n") =
      [⟨none, some "7", "b\n"⟩] := by
  decide

end Reader
end Stream
end LiveConfig
