import Mathlib.Data.List.Infix

/-!
# Event streams (`text/event-stream`)

A `Reader` is fed the characters of a stream as they come, and dispatches a message at every empty
line behind some data. What it dispatches does not depend on how the characters are cut into
chunks (`dispatched_append`), and a beginning of the characters gives a beginning of the messages
(`dispatched_prefix`).

A server writes `Block`s. If no text in them breaks a line, the reader gets back exactly the data
of the messages (`dispatched_blocks`): comments are not seen, and no data can pass for a second
message.
-/

namespace EventStream

/-- What is dispatched. -/
structure Message where
  type : List Char
  data : List Char
deriving DecidableEq

/-- A reader between two characters. The fields `id` and `retry` only matter when a client
connects again, and are not kept. -/
structure Reader where
  /-- The line so far. -/
  line : List Char
  /-- The last character was a carriage return; a line feed belongs to it. -/
  afterReturn : Bool
  /-- The data buffer. -/
  data : List Char
  /-- The event type buffer. -/
  type : List Char
deriving DecidableEq

namespace Reader

def start : Reader where
  line := []
  afterReturn := false
  data := []
  type := []

/-- A field of the block. -/
def field (r : Reader) (name value : List Char) : Reader :=
  if name = "data".toList then { r with data := r.data ++ value ++ ['\n'] }
  else if name = "event".toList then { r with type := value }
  else r

/-- One space behind the colon does not count. -/
def stripSpace : List Char → List Char
  | ' ' :: value => value
  | value => value

/-- The line has ended: an empty one ends the block, and one with a colon in front is a comment. -/
def endLine (r : Reader) : Reader :=
  match r.line with
  | [] => start
  | ':' :: _ => { r with line := [] }
  | line =>
    { r.field (line.takeWhile (· ≠ ':')) (stripSpace ((line.dropWhile (· ≠ ':')).drop 1)) with
      line := [] }

/-- The message that the end of the line dispatches: the data without its last line feed. -/
def message? (r : Reader) : Option Message :=
  if r.line = [] ∧ r.data ≠ [] then
    some
      { type := if r.type = [] then "message".toList else r.type
        data := r.data.dropLast }
  else none

/-- One character. -/
def push (r : Reader) (c : Char) : Reader :=
  if c = '\n' then
    if r.afterReturn then { r with afterReturn := false } else r.endLine
  else if c = '\r' then { r.endLine with afterReturn := true }
  else { r with line := r.line ++ [c], afterReturn := false }

/-- What it dispatches. -/
def pushed (r : Reader) (c : Char) : Option Message :=
  if c = '\n' then
    if r.afterReturn then none else r.message?
  else if c = '\r' then r.message?
  else none

def after (r : Reader) : List Char → Reader
  | [] => r
  | c :: cs => (r.push c).after cs

/-- The messages that the characters dispatch, in order. -/
def dispatched (r : Reader) : List Char → List Message
  | [] => []
  | c :: cs => (r.pushed c).toList ++ (r.push c).dispatched cs

theorem after_append (r : Reader) (cs ds : List Char) :
    r.after (cs ++ ds) = (r.after cs).after ds := by
  induction cs generalizing r with
  | nil => rfl
  | cons c cs ih => exact ih (r.push c)

theorem dispatched_append (r : Reader) (cs ds : List Char) :
    r.dispatched (cs ++ ds) = r.dispatched cs ++ (r.after cs).dispatched ds := by
  induction cs generalizing r with
  | nil => rfl
  | cons c cs ih =>
    simp only [List.cons_append, dispatched, after, ih, List.append_assoc]

/-- What has arrived so far gives a beginning of the messages. -/
theorem dispatched_prefix {r : Reader} {cs ds : List Char} (h : cs <+: ds) :
    r.dispatched cs <+: r.dispatched ds := by
  obtain ⟨rest, rfl⟩ := h
  rw [dispatched_append]
  exact List.prefix_append _ _

/-- The messages of each chunk, the reader going on from chunk to chunk. -/
def chunks (r : Reader) : List (List Char) → List Message
  | [] => []
  | c :: cs => r.dispatched c ++ (r.after c).chunks cs

/-- It does not matter how the characters are cut. -/
theorem chunks_eq (r : Reader) (cs : List (List Char)) : r.chunks cs = r.dispatched cs.flatten := by
  induction cs generalizing r with
  | nil => rfl
  | cons c cs ih => rw [chunks, ih, List.flatten_cons, dispatched_append]

end Reader

/-! ## Blocks -/

/-- What a server writes, and an empty line behind it. -/
inductive Block
  | message (data : List Char)
  | comment (text : List Char)

/-- The text breaks no line. -/
def LineFree (text : List Char) : Prop := ∀ c ∈ text, c ≠ '\n' ∧ c ≠ '\r'

instance : DecidablePred LineFree := List.decidableBAll fun c => c ≠ '\n' ∧ c ≠ '\r'

theorem LineFree.append {text text' : List Char} (h : LineFree text) (h' : LineFree text') :
    LineFree (text ++ text') := by
  intro c hc
  rcases List.mem_append.mp hc with hc | hc
  · exact h c hc
  · exact h' c hc

namespace Block

def text : Block → List Char
  | message data => "data: ".toList ++ (data ++ ['\n', '\n'])
  | comment text => ": ".toList ++ (text ++ ['\n', '\n'])

/-- The data of a message. -/
def data? : Block → Option (List Char)
  | message data => some data
  | comment _ => none

def LineFree : Block → Prop
  | message data => EventStream.LineFree data
  | comment text => EventStream.LineFree text

end Block

namespace Reader

variable {r : Reader} {line data text : List Char}

/-- A text that breaks no line is added to the line. -/
theorem after_lineFree (h : LineFree text) (hreturn : r.afterReturn = false) :
    r.after text = { r with line := r.line ++ text } := by
  induction text generalizing r with
  | nil => rw [List.append_nil]; rfl
  | cons c text ih =>
    obtain ⟨hn, hr⟩ := h c List.mem_cons_self
    have hpush : r.push c = { r with line := r.line ++ [c] } := by
      rw [push, if_neg hn, if_neg hr, ← hreturn]
    rw [after, hpush, ih (r := { r with line := r.line ++ [c] })
      (fun d hd => h d (List.mem_cons_of_mem c hd)) hreturn]
    simp

theorem dispatched_lineFree (h : LineFree text) : r.dispatched text = [] := by
  induction text generalizing r with
  | nil => rfl
  | cons c text ih =>
    obtain ⟨hn, hr⟩ := h c List.mem_cons_self
    rw [dispatched, pushed, if_neg hn, if_neg hr,
      ih fun d hd => h d (List.mem_cons_of_mem c hd)]
    rfl

/-- The end of a block whose only line is `line`. -/
theorem block (hline : LineFree line) (hne : line ≠ []) :
    (start.after (line ++ ['\n', '\n']) = start) ∧
      start.dispatched (line ++ ['\n', '\n']) =
        (({ start with line } : Reader).endLine.message?).toList := by
  have hafter : start.after line = { start with line } := by
    rw [after_lineFree hline rfl]
    rfl
  have hempty : ({ start with line } : Reader).endLine.line = [] := by
    unfold endLine
    split
    · rename_i h
      exact absurd h hne
    · rfl
    · rfl
  have hreturn : ({ start with line } : Reader).endLine.afterReturn = false := by
    unfold endLine field
    split
    · rfl
    · rfl
    · split_ifs <;> rfl
  have hfirst : ({ start with line } : Reader).message? = none := if_neg fun h => hne h.1
  have hend : ({ start with line } : Reader).endLine.endLine = start := by
    rw [endLine, hempty]
  constructor
  · rw [after_append, hafter]
    simp only [after, push, if_true, start, Bool.false_eq_true, if_false] at hreturn hend ⊢
    rw [hreturn]
    exact hend
  · rw [dispatched_append, dispatched_lineFree hline, hafter]
    simp only [dispatched, push, pushed, if_true, start, Bool.false_eq_true,
      if_false] at hreturn hfirst ⊢
    rw [hfirst, hreturn]
    simp

/-- The line of a message puts its data into the buffer. -/
theorem endLine_data (data : List Char) :
    ({ start with line := "data: ".toList ++ data } : Reader).endLine =
      { start with data := data ++ ['\n'] } := by
  rfl

theorem after_text {b : Block} (h : b.LineFree) : start.after b.text = start := by
  cases b with
  | message data =>
    rw [Block.text, ← List.append_assoc]
    exact (block (LineFree.append (by decide) h) (by simp)).1
  | comment text =>
    rw [Block.text, ← List.append_assoc]
    exact (block (LineFree.append (by decide) h) (by simp)).1

/-- A block gives back its data. -/
theorem dispatched_text {b : Block} (h : b.LineFree) :
    start.dispatched b.text = b.data?.toList.map fun data => ⟨"message".toList, data⟩ := by
  cases b with
  | message data =>
    rw [Block.text, ← List.append_assoc,
      (block (LineFree.append (by decide) h) (by simp)).2, endLine_data]
    simp [message?, Block.data?, start]
  | comment text =>
    rw [Block.text, ← List.append_assoc,
      (block (LineFree.append (by decide) h) (by simp)).2]
    rfl

/-- **What was written is read:** the data of the messages, in order, and nothing else. -/
theorem dispatched_blocks {blocks : List Block} (h : ∀ b ∈ blocks, b.LineFree) :
    start.dispatched (blocks.flatMap Block.text) =
      (blocks.filterMap Block.data?).map fun data => ⟨"message".toList, data⟩ := by
  induction blocks with
  | nil => rfl
  | cons b blocks ih =>
    rw [List.flatMap_cons, dispatched_append, dispatched_text (h b List.mem_cons_self),
      after_text (h b List.mem_cons_self), ih fun b' hb' => h b' (List.mem_cons_of_mem b hb')]
    cases b <;> rfl

end Reader

end EventStream
