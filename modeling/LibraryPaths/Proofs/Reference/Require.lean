import Mathlib.Algebra.Order.BigOperators.Group.List
import Mathlib.Algebra.Order.Ring.Nat
import LibraryPaths.Reference.Occurrence

/-!
# Lines that load one module

For every length there is a line that refers to a module name of that length (`requireLine`), so no finite
list of names holds all that a line can refer to (`exists_name_notMem`).
-/

set_option autoImplicit false

namespace LibraryPaths.Reference

/-- A name of a length. -/
def plainName (length : Nat) : List Char := List.replicate (length + 1) 'a'

/-- A line that loads the module of that name. -/
def requireLine (length : Nat) : String :=
  String.ofList (loadWord ++ ' ' :: '"' :: plainName length ++ ['"'])

theorem quotedName?_plainName (length : Nat) :
    quotedName? ('"' :: plainName length ++ ['"']) = some (plainName length, []) := by
  have hname : isNameChar 'a' = true := by decide
  have hquote : isNameChar '"' = false := by decide
  have hword : isWordChar 'a' = true := by decide
  have htake : (List.replicate length 'a' ++ ['"']).takeWhile isNameChar = List.replicate length 'a' := by
    rw [List.takeWhile_append_of_pos (by simp [hname])]
    simp [hquote]
  have hdrop : (List.replicate length 'a' ++ ['"']).dropWhile isNameChar = ['"'] := by
    rw [List.dropWhile_append_of_pos (by simp [hname])]
    simp [hquote]
  have hcons : plainName length = 'a' :: List.replicate length 'a' := List.replicate_succ
  rw [hcons]
  simp only [List.cons_append, quotedName?, hword, hdrop, htake]
  simp

theorem occurrence?_requireLine (length : Nat) :
    ∃ n, occurrence? none (loadWord ++ ' ' :: '"' :: plainName length ++ ['"']) =
      some ⟨plainName length, n⟩ := by
  have hblank : isBlank ' ' = true := by decide
  have hquote : isBlank '"' = false := by decide
  have hrest : afterOpening? none (loadWord ++ ' ' :: '"' :: plainName length ++ ['"']) =
      some ('"' :: plainName length ++ ['"']) := by
    unfold afterOpening?
    rw [if_pos (by simp), List.append_assoc, List.drop_left]
    simp [hblank, hquote, afterParenthesis]
  refine ⟨(loadWord ++ ' ' :: '"' :: plainName length ++ ['"']).length - 0, ?_⟩
  unfold occurrence?
  rw [hrest]
  simp only [Option.bind_eq_bind, Option.bind_some, quotedName?_plainName]
  rfl

/-- **The line loads the module.** -/
theorem mem_names_requireLine (length : Nat) :
    String.ofList (plainName length) ∈ names (requireLine length) := by
  obtain ⟨n, hfound⟩ := occurrence?_requireLine length
  have hcons : ∃ c rest, loadWord ++ ' ' :: '"' :: plainName length ++ ['"'] = c :: rest :=
    ⟨'r', _, rfl⟩
  obtain ⟨c, rest, hline⟩ := hcons
  rw [hline] at hfound
  unfold names requireLine
  rw [String.toList_ofList, hline, namesFrom, hfound]
  exact List.mem_map_of_mem List.mem_cons_self

/-- No finite list holds all names that a line can refer to. -/
theorem exists_name_notMem (known : List String) :
    ∃ length, String.ofList (plainName length) ∉ known := by
  refine ⟨(known.map String.length).sum, ?_⟩
  intro hmem
  have hlength : (String.ofList (plainName (known.map String.length).sum)).length ≤
      (known.map String.length).sum :=
    List.single_le_sum (by simp) _ (List.mem_map_of_mem hmem)
  rw [String.length_ofList, plainName, List.length_replicate] at hlength
  omega

theorem names_empty : names "" = [] := by
  decide

end LibraryPaths.Reference
