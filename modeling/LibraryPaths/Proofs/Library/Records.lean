import LibraryPaths.Proofs.Association
import LibraryPaths.Proofs.Library.Growth

/-!
# The libraries of a session, read through two views

All that matters about `Libraries` is the library of every scope (`Libraries.library`) and the list every
folder's client received last (`Libraries.delivered`).  Each operation changes one of the two, at one place:

* making a record changes neither (`library_ensure`, `delivered_ensure`);
* `library_setLibrary`: filling a scope changes the library of that scope alone;
* `delivered_markDelivered`: a delivery changes the list of that folder alone.

What a folder is offered, and whether that is due, depends on the two views only.
-/

set_option autoImplicit false

namespace LibraryPaths.Libraries

variable {libraries : Libraries} {key k : FolderKey}

/-- The list a folder's client received last. -/
def delivered (libraries : Libraries) (key : FolderKey) : List Path :=
  (libraries.get key).delivered

/-! ## Records -/

theorem find?_ensure (libraries : Libraries) (key k : FolderKey) :
    (libraries.ensure key).find? k =
      if k = key then some (libraries.get key) else libraries.find? k := by
  unfold ensure get find?
  cases h : libraries.folders.lookup key with
  | some record =>
    by_cases hk : k = key
    · subst hk; simp [h]
    · simp [hk]
  | none => exact Association.lookup_concat libraries.folders key k .empty h

theorem find?_set (libraries : Libraries) (key k : FolderKey) (record : FolderLibrary) :
    (libraries.set key record).find? k = if k = key then some record else libraries.find? k := by
  have hmade := find?_ensure libraries key k
  unfold set find? at *
  simp only [Association.lookup_replace, hmade]
  by_cases hk : k = key <;> simp [hk]

@[simp] theorem get_ensure (libraries : Libraries) (key k : FolderKey) :
    (libraries.ensure key).get k = libraries.get k := by
  unfold get
  rw [find?_ensure]
  by_cases hk : k = key
  · subst hk; simp [get]
  · simp [hk]

theorem get_set (libraries : Libraries) (key k : FolderKey) (record : FolderLibrary) :
    (libraries.set key record).get k = if k = key then record else libraries.get k := by
  unfold get
  rw [find?_set]
  by_cases hk : k = key <;> simp [hk]

@[simp] theorem global_ensure (libraries : Libraries) (key : FolderKey) :
    (libraries.ensure key).global = libraries.global := by
  unfold ensure
  split <;> rfl

@[simp] theorem global_set (libraries : Libraries) (key : FolderKey) (record : FolderLibrary) :
    (libraries.set key record).global = libraries.global :=
  global_ensure libraries key

/-! ## The library of a scope -/

@[simp] theorem library_global (libraries : Libraries) : libraries.library .global = libraries.global :=
  rfl

@[simp] theorem library_folder (libraries : Libraries) (key : FolderKey) :
    libraries.library (.folder key) = (libraries.get key).own := by
  cases h : libraries.find? key with
  | none => simp [library, library?, get, h, FolderLibrary.empty]
  | some record => simp [library, library?, get, h]

@[simp] theorem library_ensure (libraries : Libraries) (key : FolderKey) (scope : Scope) :
    (libraries.ensure key).library scope = libraries.library scope := by
  cases scope <;> simp

theorem library_setLibrary (libraries : Libraries) (scope s : Scope) (library : Library) :
    (libraries.setLibrary scope library).library s =
      if s = scope then library else libraries.library s := by
  cases scope with
  | global => cases s <;> simp [setLibrary, get, find?]
  | folder key =>
    cases s with
    | global => simp [setLibrary]
    | folder k =>
      by_cases hk : k = key
      · subst hk; simp [setLibrary, get_set]
      · simp [setLibrary, get_set, hk]

@[simp] theorem library_markDelivered (libraries : Libraries) (key : FolderKey) (paths : List Path)
    (scope : Scope) :
    (libraries.markDelivered key paths).library scope = libraries.library scope := by
  cases scope with
  | global => simp [markDelivered]
  | folder k =>
    by_cases hk : k = key
    · subst hk; simp [markDelivered, get_set]
    · simp [markDelivered, get_set, hk]

/-! ## The list received last -/

@[simp] theorem delivered_ensure (libraries : Libraries) (key k : FolderKey) :
    (libraries.ensure key).delivered k = libraries.delivered k := by
  simp [delivered]

@[simp] theorem delivered_setLibrary (libraries : Libraries) (scope : Scope) (library : Library)
    (k : FolderKey) :
    (libraries.setLibrary scope library).delivered k = libraries.delivered k := by
  cases scope with
  | global => rfl
  | folder key =>
    by_cases hk : k = key
    · subst hk; simp [setLibrary, delivered, get_set]
    · simp [setLibrary, delivered, get_set, hk]

theorem delivered_markDelivered (libraries : Libraries) (key k : FolderKey) (paths : List Path) :
    (libraries.markDelivered key paths).delivered k =
      if k = key then paths else libraries.delivered k := by
  by_cases hk : k = key <;> simp [markDelivered, delivered, get_set, hk]

/-! ## Offers -/

theorem offered_eq (libraries : Libraries) (key : FolderKey) :
    libraries.offered key =
      distinctPaths ((libraries.library .global).paths ++ (libraries.library (.folder key)).paths) := by
  simp [offered]

theorem offered_congr {l m : Libraries} (h : ∀ scope, l.library scope = m.library scope)
    (key : FolderKey) : l.offered key = m.offered key := by
  rw [offered_eq, offered_eq, h, h]

theorem due?_eq_none_iff :
    libraries.due? key = none ↔
      Path.sameList (libraries.delivered key) (libraries.offered key) = true := by
  unfold due? delivered
  simp

theorem due?_eq_some_iff {paths : List Path} :
    libraries.due? key = some paths ↔
      Path.sameList (libraries.delivered key) (libraries.offered key) = false ∧
        libraries.offered key = paths := by
  unfold due? delivered
  simp

theorem due?_congr {l m : Libraries} (h : ∀ scope, l.library scope = m.library scope)
    (hd : l.delivered key = m.delivered key) : l.due? key = m.due? key := by
  have hoffered := offered_congr h key
  unfold due? delivered at *
  rw [hoffered, hd]

end LibraryPaths.Libraries
