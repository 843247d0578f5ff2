import Mathlib.Data.List.Basic
import LibraryPaths.Proofs.Path.Components
import LibraryPaths.Session.Folder

/-!
# The innermost folder

A file is attributed to a folder whose root lies on the way to it, and of several such folders to one with the
deepest root.  Roots of one depth on the way to one file have the same components, so the order of the folders
decides at most which name is taken, never which root.

A folder counts if its address leads to a path.  That need not be a file address, so folders of other schemes
can take files from the file folders.

* `deepest?_eq_some_iff`: the deepest of some folders is the last one that no other is deeper than;
* `Innermost.same_root`: whatever the order of the folders, the innermost ones have the same root;
* `scope?_eq_folder_iff`, `scope?_eq_global_iff`, `scope?_eq_none_iff`: the three answers;
* `scope?_onFiles_iff`: when the folders that are no file folders make no difference;
* `scope?_innermost`: all of it together.
-/

set_option autoImplicit false

namespace LibraryPaths

/-- Whether an address is a file address. -/
def Uri.isFile : Uri → Bool
  | .located scheme _ _ _ => scheme == "file"
  | .rootless scheme _ => scheme == "file"

namespace Folder

variable {file root r : Path} {folder other : Folder} {best last : Folder × Path}
  {front : List (Folder × Path)} {folders others : List Folder}

/-! ## Folders that contain a file -/

/-- The address of a folder leads to a path whose components begin those of a file. -/
def Contains (folder : Folder) (root file : Path) : Prop :=
  folder.uri.toPath? = some root ∧ root.components <+: file.components

/-- A file lies in none of some folders. -/
def Outside (folders : List Folder) (file : Path) : Prop :=
  ∀ folder ∈ folders, ∀ root, ¬ folder.Contains root file

theorem containing?_eq_some_iff :
    folder.containing? file = some (other, r) ↔ other = folder ∧ folder.Contains r file := by
  unfold containing? Contains Path.startsWith
  cases folder.uri.toPath? with
  | none => simp
  | some root =>
    rw [← List.isPrefixOf_iff_prefix]
    by_cases h : root.components.isPrefixOf file.components = true
    · simp only [if_pos h, Option.some.injEq, Prod.mk.injEq]
      constructor
      · rintro ⟨rfl, rfl⟩
        exact ⟨rfl, rfl, h⟩
      · rintro ⟨rfl, rfl, -⟩
        exact ⟨rfl, rfl⟩
    · simp only [if_neg h, reduceCtorEq, Option.some.injEq, false_iff]
      rintro ⟨-, rfl, hprefix⟩
      exact h hprefix

theorem containing?_eq_none_iff :
    folder.containing? file = none ↔ ∀ root, ¬ folder.Contains root file := by
  rw [Option.eq_none_iff_forall_ne_some]
  constructor
  · intro h root hroot
    exact h (folder, root) (containing?_eq_some_iff.2 ⟨rfl, hroot⟩)
  · rintro h ⟨other, root⟩ hsome
    exact h root (containing?_eq_some_iff.1 hsome).2

/-! ## The deepest one -/

/-- None of the folders listed before is deeper, and all those listed behind are less deep. -/
def LastDeepest (folders : List (Folder × Path)) (best : Folder × Path) : Prop :=
  ∃ before after, folders = before ++ best :: after ∧
    (∀ f ∈ before, f.2.components.length ≤ best.2.components.length) ∧
    ∀ f ∈ after, f.2.components.length < best.2.components.length

theorem LastDeepest.length_le (h : LastDeepest front best) :
    ∀ f ∈ front, f.2.components.length ≤ best.2.components.length := by
  obtain ⟨before, after, rfl, hbefore, hafter⟩ := h
  intro f hf
  rcases List.mem_append.1 hf with hf | hf
  · exact hbefore f hf
  · rcases List.mem_cons.1 hf with rfl | hf
    · exact le_rfl
    · exact (hafter f hf).le

/-- One more folder is the last deepest one, or it is less deep than the one before. -/
theorem lastDeepest_concat_iff :
    LastDeepest (front ++ [last]) best ↔
      (last = best ∧ ∀ f ∈ front, f.2.components.length ≤ last.2.components.length) ∨
      (LastDeepest front best ∧ last.2.components.length < best.2.components.length) := by
  constructor
  · rintro ⟨before, after, hfolders, hbefore, hafter⟩
    rcases List.eq_nil_or_concat after with rfl | ⟨after, z, rfl⟩
    · obtain ⟨rfl, hlast⟩ := List.append_inj' hfolders rfl
      obtain rfl := List.singleton_inj.1 hlast
      exact .inl ⟨rfl, hbefore⟩
    · rw [List.concat_eq_append] at hfolders hafter
      rw [← List.cons_append, ← List.append_assoc] at hfolders
      obtain ⟨rfl, hlast⟩ := List.append_inj' hfolders rfl
      obtain rfl := List.singleton_inj.1 hlast
      exact .inr ⟨⟨before, after, rfl, hbefore, fun f hf => hafter f (List.mem_append_left _ hf)⟩,
        hafter last (by simp)⟩
  · rintro (⟨rfl, hfront⟩ | ⟨⟨before, after, rfl, hbefore, hafter⟩, hlast⟩)
    · exact ⟨front, [], rfl, hfront, by simp⟩
    · refine ⟨before, after ++ [last], by simp, hbefore, fun f hf => ?_⟩
      rcases List.mem_append.1 hf with hf | hf
      · exact hafter f hf
      · rwa [List.mem_singleton.1 hf]

theorem deepest?_concat (front : List (Folder × Path)) (last : Folder × Path) :
    deepest? (front ++ [last]) = deeper (deepest? front) last := by
  unfold deepest?
  rw [List.foldl_append]
  rfl

theorem deepest?_eq_none_iff : deepest? front = none ↔ front = [] := by
  rcases List.eq_nil_or_concat front with rfl | ⟨front, last, rfl⟩
  · exact ⟨fun _ => rfl, fun _ => rfl⟩
  · rw [List.concat_eq_append, deepest?_concat]
    unfold deeper
    split
    · simp
    · split <;> simp

/-- **The deepest folder** is the last one that no other is deeper than. -/
theorem deepest?_eq_some_iff : deepest? front = some best ↔ LastDeepest front best := by
  induction front using List.reverseRecOn generalizing best with
  | nil => simp [deepest?, LastDeepest]
  | append_singleton front last ih =>
    rw [deepest?_concat, lastDeepest_concat_iff, ← ih]
    cases hfront : deepest? front with
    | none =>
      obtain rfl := deepest?_eq_none_iff.1 hfront
      simp [deeper]
    | some b =>
      have hle := (ih.1 hfront).length_le
      have hb := (ih.1 hfront)
      unfold deeper
      by_cases hdeeper : b.2.components.length ≤ last.2.components.length
      · simp only [if_pos hdeeper, Option.some.injEq]
        constructor
        · rintro rfl
          exact .inl ⟨rfl, fun f hf => (hle f hf).trans hdeeper⟩
        · rintro (⟨rfl, -⟩ | ⟨rfl, hless⟩)
          · rfl
          · exact absurd hdeeper (not_le.2 hless)
      · simp only [if_neg hdeeper, Option.some.injEq]
        constructor
        · rintro rfl
          exact .inr ⟨rfl, not_le.1 hdeeper⟩
        · rintro (⟨rfl, hall⟩ | ⟨rfl, -⟩)
          · obtain ⟨before, after, rfl, -, -⟩ := hb
            exact absurd (hall b (by simp)) hdeeper
          · rfl

/-! ## The innermost one -/

/-- A folder contains a file, none that contains it and is listed before is deeper, and all that contain it
and are listed behind are less deep. -/
def Innermost (folders : List Folder) (folder : Folder) (root file : Path) : Prop :=
  ∃ before after, folders = before ++ folder :: after ∧ folder.Contains root file ∧
    (∀ other ∈ before, ∀ r, other.Contains r file → r.components.length ≤ root.components.length) ∧
    ∀ other ∈ after, ∀ r, other.Contains r file → r.components.length < root.components.length

theorem Innermost.contains (h : Innermost folders folder root file) :
    folder ∈ folders ∧ folder.Contains root file := by
  obtain ⟨before, after, rfl, hcontains, -, -⟩ := h
  exact ⟨by simp, hcontains⟩

/-- No folder that contains the file is deeper. -/
theorem Innermost.length_le (h : Innermost folders folder root file) (hother : other ∈ folders)
    (hr : other.Contains r file) : r.components.length ≤ root.components.length := by
  obtain ⟨before, after, rfl, hcontains, hbefore, hafter⟩ := h
  rcases List.mem_append.1 hother with hother | hother
  · exact hbefore other hother r hr
  · rcases List.mem_cons.1 hother with rfl | hother
    · obtain rfl : r = root := Option.some.inj (hr.1.symm.trans hcontains.1)
      exact le_rfl
    · exact (hafter other hother r hr).le

/-- Folders that are equally deep and contain one file have the same root. -/
theorem components_eq_of_contains (h : folder.Contains root file) (hr : other.Contains r file)
    (hlength : r.components.length = root.components.length) : r.components = root.components :=
  (List.prefix_of_prefix_length_le hr.2 h.2 hlength.le).eq_of_length hlength

/-- **Whatever the order of the folders**, the innermost ones have the same root. -/
theorem Innermost.same_root (hperm : others.Perm folders) (h : Innermost folders folder root file)
    (h' : Innermost others other r file) : r.components = root.components := by
  obtain ⟨hmem, hcontains⟩ := h.contains
  obtain ⟨hmem', hcontains'⟩ := h'.contains
  refine components_eq_of_contains hcontains hcontains' (le_antisymm ?_ ?_)
  · exact h.length_le (hperm.subset hmem') hcontains'
  · exact h'.length_le (hperm.symm.subset hmem) hcontains

/-- An innermost folder stays innermost if other folders are left out. -/
theorem Innermost.filter {keep : Folder → Bool} (hkeep : keep folder = true)
    (h : Innermost folders folder root file) : Innermost (folders.filter keep) folder root file := by
  obtain ⟨before, after, rfl, hcontains, hbefore, hafter⟩ := h
  refine ⟨before.filter keep, after.filter keep, ?_, hcontains, ?_, ?_⟩
  · rw [List.filter_append, List.filter_cons_of_pos hkeep]
  · exact fun other hother => hbefore other (List.mem_of_mem_filter hother)
  · exact fun other hother => hafter other (List.mem_of_mem_filter hother)

theorem deepest?_filterMap_eq_some_iff :
    deepest? (folders.filterMap (containing? file)) = some (folder, root) ↔
      Innermost folders folder root file := by
  have hmem : ∀ {folders : List Folder} {other : Folder} {r : Path}, other ∈ folders →
      other.Contains r file → (other, r) ∈ folders.filterMap (containing? file) := by
    intro folders other r hother hr
    exact List.mem_filterMap.2 ⟨other, hother, containing?_eq_some_iff.2 ⟨rfl, hr⟩⟩
  rw [deepest?_eq_some_iff]
  constructor
  · rintro ⟨front, back, hfolders, hfront, hback⟩
    obtain ⟨before, tail, rfl, rfl, htail⟩ := List.filterMap_eq_append_iff.1 hfolders
    obtain ⟨between, folder, after, rfl, hbetween, hfolder, rfl⟩ := List.filterMap_eq_cons_iff.1 htail
    obtain ⟨rfl, hcontains⟩ := containing?_eq_some_iff.1 hfolder
    refine ⟨before ++ between, after, by simp, hcontains, fun other hother r hr => ?_,
      fun other hother r hr => hback _ (hmem hother hr)⟩
    rcases List.mem_append.1 hother with hother | hother
    · exact hfront _ (hmem hother hr)
    · exact absurd hr (containing?_eq_none_iff.1 (hbetween other hother) r)
  · rintro ⟨before, after, rfl, hcontains, hbefore, hafter⟩
    refine ⟨before.filterMap (containing? file), after.filterMap (containing? file), ?_,
      fun f hf => ?_, fun f hf => ?_⟩
    · rw [List.filterMap_append, List.filterMap_cons_some (containing?_eq_some_iff.2 ⟨rfl, hcontains⟩)]
    · obtain ⟨other, hother, hsome⟩ := List.mem_filterMap.1 hf
      obtain ⟨rfl, hr⟩ := containing?_eq_some_iff.1 hsome
      exact hbefore f.1 hother f.2 hr
    · obtain ⟨other, hother, hsome⟩ := List.mem_filterMap.1 hf
      obtain ⟨rfl, hr⟩ := containing?_eq_some_iff.1 hsome
      exact hafter f.1 hother f.2 hr

theorem deepest?_filterMap_eq_none_iff :
    deepest? (folders.filterMap (containing? file)) = none ↔ Outside folders file := by
  rw [deepest?_eq_none_iff, List.filterMap_eq_nil_iff]
  exact forall₂_congr fun folder _ => containing?_eq_none_iff

end Folder

namespace Client

variable {client : Client} {file root directory : Path} {key : FolderKey}

/-! ## The three answers -/

theorem scope?_of_outside (h : Folder.Outside (client.folders.getD []) file) :
    client.scope? file = file.parent?.map fun directory => (.global, directory) := by
  unfold scope? foldersContaining
  rw [Folder.deepest?_filterMap_eq_none_iff.2 h]

theorem exists_innermost_of_not_outside (h : ¬ Folder.Outside (client.folders.getD []) file) :
    ∃ folder root, Folder.Innermost (client.folders.getD []) folder root file ∧
      client.scope? file = some (.folder ⟨client.id, folder.name⟩, root) := by
  unfold scope? foldersContaining
  split
  · rename_i folder root hdeepest
    exact ⟨folder, root, Folder.deepest?_filterMap_eq_some_iff.1 hdeepest, rfl⟩
  · rename_i hnone
    exact absurd (Folder.deepest?_filterMap_eq_none_iff.1 hnone) h

/-- A file is attributed to the innermost folder, if any contains it. -/
theorem scope?_eq_folder_iff :
    client.scope? file = some (.folder key, root) ↔
      ∃ folder, key = ⟨client.id, folder.name⟩ ∧
        Folder.Innermost (client.folders.getD []) folder root file := by
  constructor
  · intro h
    by_cases hout : Folder.Outside (client.folders.getD []) file
    · rw [scope?_of_outside hout] at h
      obtain ⟨_, -, heq⟩ := Option.map_eq_some_iff.1 h
      cases heq
    · obtain ⟨folder, r, hinner, hscope⟩ := exists_innermost_of_not_outside hout
      rw [hscope, Option.some.injEq, Prod.mk.injEq, Scope.folder.injEq] at h
      obtain ⟨rfl, rfl⟩ := h
      exact ⟨folder, rfl, hinner⟩
  · rintro ⟨folder, rfl, hinner⟩
    have hdeepest := Folder.deepest?_filterMap_eq_some_iff.2 hinner
    unfold scope? foldersContaining
    rw [hdeepest]

theorem scope?_eq_global_iff :
    client.scope? file = some (.global, directory) ↔
      Folder.Outside (client.folders.getD []) file ∧ file.parent? = some directory := by
  by_cases hout : Folder.Outside (client.folders.getD []) file
  · simp [scope?_of_outside hout, hout]
  · obtain ⟨folder, root, -, hscope⟩ := exists_innermost_of_not_outside hout
    simp [hscope, hout]

theorem scope?_eq_none_iff :
    client.scope? file = none ↔
      Folder.Outside (client.folders.getD []) file ∧ file.parent? = none := by
  by_cases hout : Folder.Outside (client.folders.getD []) file
  · simp [scope?_of_outside hout, hout]
  · obtain ⟨folder, root, -, hscope⟩ := exists_innermost_of_not_outside hout
    simp [hscope, hout]

/-! ## File folders -/

/-- A client with its file folders alone. -/
def onFiles (client : Client) : Client :=
  { client with folders := client.folders.map (·.filter (·.uri.isFile)) }

theorem folders_onFiles (client : Client) :
    client.onFiles.folders.getD [] = (client.folders.getD []).filter (·.uri.isFile) := by
  unfold onFiles
  cases client.folders <;> rfl

/-- **The file folders alone give the same answer** iff an innermost folder that is no file folder has the name
and the root of an innermost file folder. -/
theorem scope?_onFiles_iff :
    (client.scope? file).map (fun answer => (answer.1, answer.2.components)) =
        (client.onFiles.scope? file).map (fun answer => (answer.1, answer.2.components)) ↔
      ∀ folder root, Folder.Innermost (client.folders.getD []) folder root file →
        folder.uri.isFile = false →
        ∃ other r, Folder.Innermost (client.onFiles.folders.getD []) other r file ∧
          other.name = folder.name ∧ r.same root = true := by
  constructor
  · intro heq folder root hinner _
    rw [scope?_eq_folder_iff.2 ⟨folder, rfl, hinner⟩, Option.map_some] at heq
    obtain ⟨⟨scope, r⟩, hscope, hanswer⟩ := Option.map_eq_some_iff.1 heq.symm
    obtain ⟨rfl, hcomponents⟩ := Prod.mk.inj hanswer
    obtain ⟨other, hkey, hother⟩ := scope?_eq_folder_iff.1 hscope
    exact ⟨other, r, hother, (congrArg FolderKey.folder hkey).symm, Path.same_iff.2 hcomponents⟩
  · intro hshared
    by_cases hout : Folder.Outside (client.folders.getD []) file
    · have houtfiles : Folder.Outside (client.onFiles.folders.getD []) file := by
        rw [folders_onFiles]
        exact fun folder hfolder => hout folder (List.mem_of_mem_filter hfolder)
      rw [scope?_of_outside hout, scope?_of_outside houtfiles]
    · obtain ⟨folder, root, hinner, hscope⟩ := exists_innermost_of_not_outside hout
      obtain ⟨other, r, hother, hname, hroot⟩ : ∃ other r,
          Folder.Innermost (client.onFiles.folders.getD []) other r file ∧
            other.name = folder.name ∧ r.same root = true := by
        cases hfile : folder.uri.isFile with
        | true =>
          rw [folders_onFiles]
          exact ⟨folder, root, hinner.filter hfile, rfl, Path.same_iff.2 rfl⟩
        | false => exact hshared folder root hinner hfile
      rw [hscope, scope?_eq_folder_iff.2 ⟨other, rfl, hother⟩, Option.map_some, Option.map_some, hname,
        Path.same_iff.1 hroot]
      rfl

/-! ## All of it -/

/-- **The order of the folders** does not matter for the root, nor for whether it is that of a folder. -/
theorem root_eq_of_perm {others : List Folder} (hperm : others.Perm (client.folders.getD [])) :
    (({ client with folders := some others } : Client).scope? file).map
        (fun answer => (answer.1 == .global, answer.2.components)) =
      (client.scope? file).map fun answer => (answer.1 == .global, answer.2.components) := by
  let reordered : Client := { client with folders := some others }
  have hiff : Folder.Outside (reordered.folders.getD []) file ↔
      Folder.Outside (client.folders.getD []) file := by
    change Folder.Outside others file ↔ _
    unfold Folder.Outside
    simp only [hperm.mem_iff]
  by_cases hout : Folder.Outside (client.folders.getD []) file
  · rw [scope?_of_outside hout, scope?_of_outside (hiff.2 hout)]
  · obtain ⟨folder, root, hinner, hscope⟩ := exists_innermost_of_not_outside hout
    obtain ⟨other, r, hinner', hscope'⟩ := exists_innermost_of_not_outside (mt hiff.1 hout)
    rw [hscope, hscope', Option.map_some, Option.map_some, hinner.same_root hperm hinner']
    rfl

/-- **Files are attributed to the innermost folder.**  The answer is a folder, with its root, exactly if the
address of that folder leads to a path whose components begin those of the file, no folder that contains the file
is deeper, and those that contain it and are listed behind are less deep; folders that are equally deep have the
same root.  A file outside every folder feeds the global library, and its parent takes the place of the root;
only a file outside every folder that has no parent, the root or the empty path, has no answer.  The root does
not depend on the order of the folders.  All this is so of the file folders alone exactly if an innermost folder
that is no file folder has the name and the root of an innermost file folder. -/
theorem scope?_innermost (client : Client) (file : Path) :
    (∀ key root, client.scope? file = some (.folder key, root) ↔
      ∃ folder, key = ⟨client.id, folder.name⟩ ∧
        Folder.Innermost (client.folders.getD []) folder root file) ∧
    (∀ folder root, Folder.Innermost (client.folders.getD []) folder root file →
      ∀ other ∈ client.folders.getD [], ∀ r, other.Contains r file →
        r.components.length ≤ root.components.length ∧
          (r.components.length = root.components.length → r.same root = true)) ∧
    (∀ directory, client.scope? file = some (.global, directory) ↔
      Folder.Outside (client.folders.getD []) file ∧ file.parent? = some directory) ∧
    (client.scope? file = none ↔
      Folder.Outside (client.folders.getD []) file ∧ file.parent? = none) ∧
    (∀ directory, file.parent? = some directory → directory.components = file.components.dropLast) ∧
    (file.parent? = none ↔ file.components = [] ∨ file.components = [.root]) ∧
    (∀ others, others.Perm (client.folders.getD []) →
      (({ client with folders := some others } : Client).scope? file).map
          (fun answer => (answer.1 == .global, answer.2.components)) =
        (client.scope? file).map fun answer => (answer.1 == .global, answer.2.components)) ∧
    ((client.scope? file).map (fun answer => (answer.1, answer.2.components)) =
        (client.onFiles.scope? file).map (fun answer => (answer.1, answer.2.components)) ↔
      ∀ folder root, Folder.Innermost (client.folders.getD []) folder root file →
        folder.uri.isFile = false →
        ∃ other r, Folder.Innermost (client.onFiles.folders.getD []) other r file ∧
          other.name = folder.name ∧ r.same root = true) := by
  refine ⟨fun key root => scope?_eq_folder_iff, fun folder root hinner other hother r hr => ?_,
    fun directory => scope?_eq_global_iff, scope?_eq_none_iff, ?_, ?_, fun others => root_eq_of_perm,
    scope?_onFiles_iff⟩
  · exact ⟨hinner.length_le hother hr, fun hlength =>
      Path.same_iff.2 (Folder.components_eq_of_contains hinner.contains.2 hr hlength)⟩
  · intro directory hdirectory
    rcases Path.parent?_cases file with ⟨hnone, -⟩ | ⟨q, hq, -, -, hcomponents⟩
    · cases hnone.symm.trans hdirectory
    · obtain rfl := Option.some.inj (hq.symm.trans hdirectory)
      exact hcomponents
  · rcases Path.parent?_cases file with ⟨hnone, hroot⟩ | ⟨q, hq, hempty, hroot, -⟩
    · exact iff_of_true hnone hroot
    · simp [hq, hempty, hroot]

/-- A folder within a folder, listed twice, beside one whose name only begins alike, one on another machine and
one that is no file folder but has a directory. -/
def nestedFolders : List Folder :=
  [⟨"page", .located "http" (some ⟨"", "work", ""⟩) ["app"] ""⟩, ⟨"outer", .file "" ["work"] ""⟩,
    ⟨"draft", .located "untitled" none ["work", "app", "new"] ""⟩, ⟨"first", .file "" ["work", "app"] ""⟩,
    ⟨"sibling", .file "" ["work", "app2"] ""⟩, ⟨"second", .file "" ["work", "app", ""] ""⟩]

/-- The last of the two deepest folders is taken, and the first of them if they are listed the other way
round; their root is the same.  Below the directory of the folder that is no file folder, that folder is taken. -/
theorem scope?_innermost_nested :
    Folder.Innermost nestedFolders ⟨"second", .file "" ["work", "app", ""] ""⟩ (.ofString "/work/app")
      (.ofString "/work/app/a.lua") ∧
    (∀ other ∈ nestedFolders, ∀ r, other.Contains r (.ofString "/work/app/a.lua") →
      r.components.length ≤ 3) ∧
    (Client.mk 1 "lua_ls" (some nestedFolders.reverse)).scope? (.ofString "/work/app/a.lua") =
      some (.folder ⟨1, "first"⟩, .ofString "/work/app") ∧
    Folder.Outside nestedFolders (.ofString "/works/b.lua") ∧
    Folder.Innermost nestedFolders ⟨"draft", .located "untitled" none ["work", "app", "new"] ""⟩
      (.ofString "/work/app/new") (.ofString "/work/app/new/c.lua") := by
  obtain ⟨hfolder, hdeepest, -⟩ :=
    scope?_innermost ⟨1, "lua_ls", some nestedFolders⟩ (.ofString "/work/app/a.lua")
  obtain ⟨-, -, hglobal, -⟩ :=
    scope?_innermost ⟨1, "lua_ls", some nestedFolders⟩ (.ofString "/works/b.lua")
  obtain ⟨hdraft, -⟩ :=
    scope?_innermost ⟨1, "lua_ls", some nestedFolders⟩ (.ofString "/work/app/new/c.lua")
  have hdeep : (Path.ofString "/work/app").components.length = 3 := by decide +kernel
  have hnames : ∀ f ∈ nestedFolders, ∀ g ∈ nestedFolders, f.name = g.name → f = g := by decide +kernel
  obtain ⟨folder, hkey, hinner⟩ :=
    (hfolder ⟨1, "second"⟩ (.ofString "/work/app")).1 (by decide +kernel)
  obtain rfl := hnames folder hinner.contains.1 ⟨"second", .file "" ["work", "app", ""] ""⟩ (by decide +kernel)
    (congrArg FolderKey.folder hkey).symm
  obtain ⟨other, hother, houter⟩ :=
    (hdraft ⟨1, "draft"⟩ (.ofString "/work/app/new")).1 (by decide +kernel)
  obtain rfl := hnames other houter.contains.1 ⟨"draft", .located "untitled" none ["work", "app", "new"] ""⟩
    (by decide +kernel) (congrArg FolderKey.folder hother).symm
  refine ⟨hinner, fun other hother r hr => ?_, by decide +kernel, ?_, houter⟩
  · exact hdeep ▸ (hdeepest _ _ hinner other hother r hr).1
  · exact ((hglobal (.ofString "/works")).1 (by decide +kernel)).1

/-- A client with one folder, which is no file folder but has the directory `/work/app`. -/
def draftClient : Client := ⟨1, "lua_ls", some [⟨"app", .located "untitled" none ["work", "app"] ""⟩]⟩

/-- A file need not be attributed to a file folder, and one outside every file folder need not feed the global
library. -/
theorem not_forall_scope?_onFiles :
    (¬ ∀ (client : Client) (file : Path) key root, client.scope? file = some (.folder key, root) →
      ∃ folder ∈ client.folders.getD [], folder.uri.isFile = true ∧ key = ⟨client.id, folder.name⟩ ∧
        folder.Contains root file) ∧
    ¬ ∀ (client : Client) (file directory : Path),
      Folder.Outside (client.onFiles.folders.getD []) file → file.parent? = some directory →
      client.scope? file = some (.global, directory) := by
  have hscope : draftClient.scope? (.ofString "/work/app/a.lua") =
      some (.folder ⟨1, "app"⟩, .ofString "/work/app") := by decide +kernel
  have hnofiles : draftClient.onFiles.folders.getD [] = [] := by decide +kernel
  refine ⟨fun h => ?_, fun h => ?_⟩
  · obtain ⟨folder, hmem, hfile, -⟩ := h draftClient _ _ _ hscope
    have hkept : folder ∈ draftClient.onFiles.folders.getD [] := by
      rw [folders_onFiles]
      exact List.mem_filter.2 ⟨hmem, hfile⟩
    rw [hnofiles] at hkept
    cases hkept
  · have houtside : Folder.Outside (draftClient.onFiles.folders.getD []) (.ofString "/work/app/a.lua") := by
      rw [hnofiles]
      exact fun folder hmem => absurd hmem List.not_mem_nil
    have hglobal := h draftClient _ (.ofString "/work/app") houtside (by decide +kernel)
    rw [hscope] at hglobal
    cases hglobal

end Client

end LibraryPaths
