import LibraryPaths.Client.Error
import LibraryPaths.Path.Basic
import LibraryPaths.Text.Lines

/-!
# Text buffers

An editor's open buffers, edited by lines, and the subscriptions to their changes.  Line ranges are half
open and may lie outside the buffer; they are cut to it.  Subscriptions are numbered from one and a number
is never given twice.  Closing a buffer ends its subscriptions; opening it again keeps them.
-/

set_option autoImplicit false

namespace LibraryPaths

/-- An open buffer: its file, if it has one, and its lines. -/
structure Buffer where
  path : Option Path
  lines : List String
  deriving DecidableEq, Repr, Inhabited

/-- The open buffers and the subscriptions to them. -/
structure Buffers where
  opened : List (Nat × Buffer)
  /-- The live subscriptions: number and buffer. -/
  subscriptions : List (Nat × Nat)
  /-- The number given last. -/
  issued : Nat
  /-- How often a subscription was asked for. -/
  attempts : Nat
  /-- Which attempts, counted from zero, the editor refuses. -/
  refuses : Nat → Bool

namespace Buffers

/-- No buffer is open, and no subscription will be refused. -/
def empty : Buffers := ⟨[], [], 0, 0, fun _ => false⟩

/-- An open buffer. -/
def find? (buffers : Buffers) (buffer : Nat) : Option Buffer :=
  buffers.opened.lookup buffer

/-- The buffers with one put in the place of another of its number, or behind all others. -/
def put (buffers : Buffers) (buffer : Nat) (content : Buffer) : Buffers :=
  if (buffers.find? buffer).isSome then
    { buffers with
      opened := buffers.opened.map fun (b, c) => if b = buffer then (b, content) else (b, c) }
  else { buffers with opened := buffers.opened ++ [(buffer, content)] }

/-- Opens a buffer with a text, in place of what it held. -/
def load (buffers : Buffers) (buffer : Nat) (path : Option Path) (text : String) : Buffers :=
  buffers.put buffer ⟨path, textLines text⟩

/-- Closes a buffer and ends its subscriptions. -/
def close (buffers : Buffers) (buffer : Nat) : Buffers :=
  { buffers with
    opened := buffers.opened.filter (·.1 != buffer)
    subscriptions := buffers.subscriptions.filter (·.2 != buffer) }

/-- Replaces the lines of a range.  The answer is the range of the new lines that holds the
replacement. -/
def setLines (buffers : Buffers) (buffer first last : Nat) (replacement : List String) :
    Except EditorError (Buffers × Nat × Nat) :=
  match buffers.find? buffer with
  | none => .error (.bufferNotFound buffer)
  | some content =>
    let first := min first content.lines.length
    let last := max first (min last content.lines.length)
    let lines := content.lines.take first ++ replacement ++ content.lines.drop last
    .ok (buffers.put buffer { content with lines }, first, first + replacement.length)

/-- The lines of a range. -/
def getLines (buffers : Buffers) (buffer first last : Nat) : Except EditorError (List String) :=
  match buffers.find? buffer with
  | none => .error (.bufferNotFound buffer)
  | some content =>
    let last := min last content.lines.length
    .ok ((content.lines.take last).drop (min first last))

/-- The number of lines. -/
def lineCount (buffers : Buffers) (buffer : Nat) : Except EditorError Nat :=
  match buffers.find? buffer with
  | none => .error (.bufferNotFound buffer)
  | some content => .ok content.lines.length

/-- The file of a buffer. -/
def path? (buffers : Buffers) (buffer : Nat) : Option Path :=
  (buffers.find? buffer).bind (·.path)

/-- Asks for a subscription to a buffer. -/
def subscribe (buffers : Buffers) (buffer : Nat) : Buffers × Except EditorError Nat :=
  let counted := { buffers with attempts := buffers.attempts + 1 }
  if buffers.refuses buffers.attempts then
    (counted, .error (.subscribeFailed buffer .refused))
  else if (buffers.find? buffer).isNone then
    (counted, .error (.subscribeFailed buffer .notLoaded))
  else
    let number := buffers.issued + 1
    ({ counted with
        issued := number
        subscriptions := buffers.subscriptions ++ [(number, buffer)] }, .ok number)

/-- Ends a subscription. -/
def unsubscribe (buffers : Buffers) (number : Nat) : Buffers :=
  { buffers with subscriptions := buffers.subscriptions.filter (·.1 != number) }

/-- The number of live subscriptions to a buffer. -/
def subscriptionCount (buffers : Buffers) (buffer : Nat) : Nat :=
  buffers.subscriptions.countP (·.2 == buffer)

/-- The buffers of an editor that refuses the next subscriptions. -/
def refuseNext (buffers : Buffers) (count : Nat) : Buffers :=
  { buffers with
    refuses := fun k => decide (buffers.attempts ≤ k ∧ k < buffers.attempts + count) }

end Buffers

end LibraryPaths
