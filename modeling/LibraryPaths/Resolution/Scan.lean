import LibraryPaths.Library.Basic
import LibraryPaths.Reference.Occurrence
import LibraryPaths.Resolution.Basic

/-!
# Scanning lines for the libraries they need

Every module name referenced in a line is resolved, and the library root of a resolved one is added to the
library being filled.  The result counts the references and how often the library grew.
-/

set_option autoImplicit false

namespace LibraryPaths

/-- The state of a scan. -/
structure Scan where
  resolutions : Resolutions
  library : Library
  /-- References seen. -/
  references : Nat
  /-- Paths that were new in the library. -/
  added : Nat
  deriving DecidableEq, Repr

namespace Scan

/-- Before the first reference. -/
def start (resolutions : Resolutions) (library : Library) : Scan :=
  ⟨resolutions, library, 0, 0⟩

/-- One reference. -/
def note (places : Places) (scan : Scan) (name : String) : Scan :=
  let (resolutions, answer) := scan.resolutions.resolve places name
  match answer.root? with
  | none => { scan with resolutions, references := scan.references + 1 }
  | some root =>
    { resolutions
      library := scan.library.add places.files root
      references := scan.references + 1
      added := scan.added + if scan.library.grows places.files root then 1 else 0 }

/-- All references of some lines. -/
def run (places : Places) (resolutions : Resolutions) (library : Library) (lines : List String) :
    Scan :=
  (Reference.namesInLines lines).foldl (note places) (start resolutions library)

/-- Whether a scan made the library longer. -/
def changed (scan : Scan) : Bool := scan.added != 0

end Scan

end LibraryPaths
