import LibraryPaths.Proofs.Association
import LibraryPaths.Proofs.Path.Spelling

/-!
# The order of a listing

An operating system lists a directory in any order it likes.  Two file systems are the same but for that order
(`FileSystem.Reordered`) if they have the same entries and every directory holds the same names.  Paths lead to
the same places in both, so all that a path is asked for has one answer; only a listing has its names in
another order.

* `Reordered.land`: a path leads to the same place;
* `Reordered.stat`, `Reordered.normalize`: what it is and what its normal form is;
* `Reordered.children`: the names in a directory are the same.
-/

set_option autoImplicit false

namespace LibraryPaths.FileSystem

/-- The same file system, with its directories listed in another order. -/
structure Reordered (fs other : FileSystem) : Prop where
  workingDirectory : other.workingDirectory = fs.workingDirectory
  entry? : ∀ location, other.entry? location = fs.entry? location
  names : ∀ location,
    ((other.membersAt location).map Prod.fst).Perm ((fs.membersAt location).map Prod.fst)

namespace Reordered

variable {fs other : FileSystem}

/-- Entries are read in the same way, from their directories and by their paths. -/
theorem inPlace (h : fs.Reordered other) : other.inPlace = fs.inPlace := by
  unfold FileSystem.inPlace
  simp only [h.entry?]

theorem byPath (h : fs.Reordered other) : other.byPath = fs.byPath := by
  unfold FileSystem.byPath
  simp only [h.entry?]

theorem follow (h : fs.Reordered other) (p : Path) : other.follow p = fs.follow p := by
  unfold FileSystem.follow followBy
  rw [h.inPlace, h.workingDirectory]

/-- **A path leads to the same place.** -/
theorem land (h : fs.Reordered other) (p : Path) : other.land p = fs.land p := by
  unfold FileSystem.land
  rw [h.follow]

theorem stat (h : fs.Reordered other) (p : Path) : other.stat p = fs.stat p := by
  unfold FileSystem.stat locate
  simp only [h.land, h.entry?]

theorem isDirectory (h : fs.Reordered other) : other.isDirectory = fs.isDirectory := by
  funext p
  unfold FileSystem.isDirectory
  rw [h.stat]

theorem isFile (h : fs.Reordered other) : other.isFile = fs.isFile := by
  funext p
  unfold FileSystem.isFile
  rw [h.stat]

theorem normalize (h : fs.Reordered other) (p : Path) : other.normalize p = fs.normalize p := by
  unfold FileSystem.normalize canonical followBy
  rw [h.byPath, h.workingDirectory]

/-- **A directory holds the same names.** -/
theorem children (h : fs.Reordered other) (p : Path) : (other.children p).Perm (fs.children p) := by
  unfold FileSystem.children locate
  rw [h.land]
  split
  · exact h.names _
  · exact List.Perm.refl _

end Reordered

/-- The root may be listed in any order. -/
theorem reordered_of_perm {members others : List (Name × Node)} (h : others.Perm members)
    (hnodup : (others.map Prod.fst).Nodup) (workingDirectory : Location) :
    Reordered ⟨members, workingDirectory⟩ ⟨others, workingDirectory⟩ := by
  have hbelow : ∀ name rest, (Node.directory others).find? (name :: rest) =
      (Node.directory members).find? (name :: rest) := by
    intro name rest
    simp only [Node.find?, Node.members]
    rw [Association.lookup_perm h hnodup]
  refine ⟨rfl, fun location => ?_, fun location => ?_⟩
  · cases location with
    | nil => rfl
    | cons name rest => exact congrArg (Option.map Node.entry) (hbelow name rest)
  · cases location with
    | nil => exact h.map Prod.fst
    | cons name rest =>
      unfold membersAt root
      rw [hbelow]

end LibraryPaths.FileSystem
