import LibraryPaths.Library.Folders

/-!
# Attached buffers

Each attached buffer has the scope it feeds and the subscription through which its changes are reported.
A buffer is attached at most once; attaching it again changes nothing.
-/

set_option autoImplicit false

namespace LibraryPaths

/-- What an attached buffer feeds, and its subscription. -/
structure Attachment where
  scope : Scope
  subscription : Nat
  deriving DecidableEq, Repr

/-- The attached buffers. -/
structure Attachments where
  entries : List (Nat × Attachment)
  deriving DecidableEq, Repr, Inhabited

namespace Attachments

/-- No buffer is attached. -/
def empty : Attachments := ⟨[]⟩

/-- The attachment of a buffer. -/
def find? (attachments : Attachments) (buffer : Nat) : Option Attachment :=
  attachments.entries.lookup buffer

/-- Whether a buffer is attached. -/
def isAttached (attachments : Attachments) (buffer : Nat) : Bool :=
  (attachments.find? buffer).isSome

/-- Attaches a buffer that is not attached. -/
def attach (attachments : Attachments) (buffer : Nat) (attachment : Attachment) : Attachments :=
  if attachments.isAttached buffer then attachments
  else ⟨attachments.entries ++ [(buffer, attachment)]⟩

/-- Detaches a buffer. -/
def detach (attachments : Attachments) (buffer : Nat) : Attachments :=
  ⟨attachments.entries.filter (·.1 != buffer)⟩

/-- The number of attached buffers. -/
def size (attachments : Attachments) : Nat := attachments.entries.length

end Attachments

end LibraryPaths
