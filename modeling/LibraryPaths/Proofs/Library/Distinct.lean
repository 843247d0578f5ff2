import Mathlib.Data.List.Basic
import Mathlib.Data.List.Infix
import LibraryPaths.Library.Folders

/-!
# Lists of paths without repetitions

Paths are compared by their components, so lists of paths are read here through `Path.components`:

* `sameList_iff`: lists agree place by place iff their components do;
* `map_components_distinctPaths`: `distinctPaths` keeps the first of every run of equal components;
* `distinctPaths_append`: of two lists without repetitions it keeps the first, and of the second what is not
  in the first;
* `eraseDups_between`: two growing lists, offered one after the other without repetitions, never come
  back to an earlier offer once they have left it.
-/

set_option autoImplicit false

namespace LibraryPaths

/-! ## Comparing by components -/

theorem Path.same_iff {p q : Path} : p.same q = true ↔ p.components = q.components := by
  simp [Path.same]

theorem holdsPath_iff {ps : List Path} {p : Path} :
    holdsPath ps p = true ↔ p.components ∈ ps.map Path.components := by
  simp [holdsPath, Path.same]

theorem sameList_iff {ps qs : List Path} :
    Path.sameList ps qs = true ↔ ps.map Path.components = qs.map Path.components := by
  induction ps generalizing qs with
  | nil => cases qs <;> simp [Path.sameList]
  | cons p ps ih =>
    cases qs with
    | nil => simp [Path.sameList]
    | cons q qs => simp [Path.sameList, Path.same_iff, ih]

theorem sameList_refl (ps : List Path) : Path.sameList ps ps = true := sameList_iff.2 rfl

/-! ## Keeping the first of each -/

theorem removeAll_eq_nil {α : Type} [BEq α] [LawfulBEq α] {xs ys : List α} (h : ∀ x ∈ xs, x ∈ ys) :
    xs.removeAll ys = [] := by
  simpa [List.removeAll, List.filter_eq_nil_iff] using h

/-- An element put behind all others counts if it is not among them. -/
theorem eraseDups_concat {α : Type} [BEq α] [LawfulBEq α] (xs : List α) (x : α) :
    (xs ++ [x]).eraseDups = if x ∈ xs then xs.eraseDups else xs.eraseDups ++ [x] := by
  rw [List.eraseDups_append]
  by_cases h : x ∈ xs
  · rw [if_pos h, removeAll_eq_nil (by simpa using h), List.eraseDups_nil, List.append_nil]
  · have hkeep : [x].removeAll xs = [x] := by simpa [List.removeAll] using h
    rw [if_neg h, hkeep]
    rfl

theorem distinctPaths_concat (ps : List Path) (p : Path) :
    distinctPaths (ps ++ [p]) =
      if holdsPath (distinctPaths ps) p then distinctPaths ps else distinctPaths ps ++ [p] := by
  unfold distinctPaths
  rw [List.foldl_append]
  rfl

theorem map_components_distinctPaths (ps : List Path) :
    (distinctPaths ps).map Path.components = (ps.map Path.components).eraseDups := by
  induction ps using List.reverseRecOn with
  | nil => rfl
  | append_singleton ps p ih =>
    have hmem : holdsPath (distinctPaths ps) p = true ↔ p.components ∈ ps.map Path.components := by
      rw [holdsPath_iff, ih, List.mem_eraseDups]
    rw [distinctPaths_concat, List.map_append, List.map_singleton, eraseDups_concat]
    by_cases h : p.components ∈ ps.map Path.components
    · rw [if_pos (hmem.2 h), if_pos h, ih]
    · rw [if_neg (mt hmem.1 h), if_neg h, List.map_append, ih]
      rfl

theorem mem_of_mem_distinctPaths {ps : List Path} {p : Path} (h : p ∈ distinctPaths ps) :
    p ∈ ps := by
  induction ps using List.reverseRecOn with
  | nil => exact h
  | append_singleton ps q ih =>
    rw [distinctPaths_concat] at h
    split at h
    · exact List.mem_append_left _ (ih h)
    · rcases List.mem_append.1 h with h | h
      · exact List.mem_append_left _ (ih h)
      · exact List.mem_append_right _ h

/-- Every path of a list is the same as one that is kept. -/
theorem exists_same_mem_distinctPaths {ps : List Path} {p : Path} (h : p ∈ ps) :
    ∃ q ∈ distinctPaths ps, q.same p = true := by
  have hmem : p.components ∈ (distinctPaths ps).map Path.components := by
    rw [map_components_distinctPaths, List.mem_eraseDups]
    exact List.mem_map_of_mem h
  obtain ⟨q, hq, hqp⟩ := List.mem_map.1 hmem
  exact ⟨q, hq, Path.same_iff.2 hqp⟩

/-! ## Lists without repetitions -/

/-- No two paths of a list are the same. -/
def Apart (paths : List Path) : Prop :=
  paths.Pairwise fun p q => p.same q = false

theorem Apart.concat {ps : List Path} {p : Path} (h : Apart ps) (hp : holdsPath ps p = false) :
    Apart (ps ++ [p]) := by
  refine List.pairwise_append.2 ⟨h, List.pairwise_singleton _ _, fun q hq r hr => ?_⟩
  rw [List.mem_singleton.1 hr]
  exact Bool.eq_false_iff.2 fun hsame => List.any_eq_false.1 hp q hq hsame

theorem apart_distinctPaths (ps : List Path) : Apart (distinctPaths ps) := by
  induction ps using List.reverseRecOn with
  | nil => exact List.Pairwise.nil
  | append_singleton ps p ih =>
    rw [distinctPaths_concat]
    cases h : holdsPath (distinctPaths ps) p with
    | true => exact ih
    | false => exact ih.concat h

/-- In a list without repetitions the last path is none of the others. -/
theorem Apart.of_concat {ps : List Path} {p : Path} (h : Apart (ps ++ [p])) :
    Apart ps ∧ holdsPath ps p = false := by
  obtain ⟨hps, -, hlast⟩ := List.pairwise_append.1 h
  refine ⟨hps, List.any_eq_false.2 fun q hq => ?_⟩
  rw [hlast q hq p List.mem_cons_self]
  exact Bool.false_ne_true

theorem Apart.nodup_components {ps : List Path} (h : Apart ps) : (ps.map Path.components).Nodup := by
  refine List.pairwise_map.2 (h.imp fun hapart hsame => ?_)
  rw [Path.same_iff.2 hsame] at hapart
  cases hapart

theorem distinctPaths_of_apart {ps : List Path} (h : Apart ps) : distinctPaths ps = ps := by
  induction ps using List.reverseRecOn with
  | nil => rfl
  | append_singleton ps p ih =>
    obtain ⟨hps, hnew⟩ := h.of_concat
    rw [distinctPaths_concat, ih hps, hnew]
    rfl

/-- **Two lists without repetitions, each path once**: the first one, then what the second one adds. -/
theorem distinctPaths_append {ps qs : List Path} (hps : Apart ps) (hqs : Apart qs) :
    distinctPaths (ps ++ qs) = ps ++ qs.filter fun q => !holdsPath ps q := by
  induction qs using List.reverseRecOn with
  | nil => rw [List.append_nil, List.filter_nil, List.append_nil, distinctPaths_of_apart hps]
  | append_singleton qs q ih =>
    obtain ⟨hqs, hnew⟩ := hqs.of_concat
    have hholds : holdsPath (ps ++ qs.filter fun r => !holdsPath ps r) q = holdsPath ps q := by
      have hnone : holdsPath (qs.filter fun r => !holdsPath ps r) q = false :=
        List.any_eq_false.2 fun r hr => List.any_eq_false.1 hnew r (List.mem_filter.1 hr).1
      unfold holdsPath at hnone ⊢
      rw [List.any_append, hnone, Bool.or_false]
    rw [← List.append_assoc, distinctPaths_concat, ih hqs, hholds, List.filter_append]
    cases h : holdsPath ps q with
    | true => simp [h]
    | false => simp [h]

/-! ## Offers that do not come back -/

section Offers

variable {α : Type} [BEq α] [LawfulBEq α]

theorem eraseDups_filter (keep : α → Bool) :
    ∀ xs : List α, (xs.filter keep).eraseDups = xs.eraseDups.filter keep
  | [] => rfl
  | x :: xs => by
    have ih := eraseDups_filter keep (xs.filter fun y => !y == x)
    rw [List.eraseDups_cons]
    by_cases hx : keep x
    · rw [List.filter_cons_of_pos hx, List.filter_cons_of_pos hx, List.eraseDups_cons, ← ih,
        List.filter_comm]
    · have hdrop : (xs.filter fun y => !y == x).filter keep = xs.filter keep := by
        rw [List.filter_filter]
        apply List.filter_congr
        intro y _
        by_cases hy : y = x
        · subst hy; simp [hx]
        · simp [hy]
      rw [List.filter_cons_of_neg hx, List.filter_cons_of_neg hx, ← ih, hdrop]
termination_by xs => xs.length
decreasing_by
  exact Nat.lt_succ_of_le (List.length_filter_le _ _)

theorem eraseDups_removeAll (xs ys : List α) :
    (xs.removeAll ys).eraseDups = xs.eraseDups.removeAll ys :=
  eraseDups_filter _ xs

/-- **An offer that was left is not made again.**  If two lists grow from `g₀`, `o₀` over `g₁`, `o₁` to
`g₂`, `o₂` and the last offer is the first one, the one between is the first one too: what moves from the
second list to the first takes its place there for good. -/
theorem eraseDups_between {g₀ g₁ g₂ o₀ o₁ o₂ : List α} (hg₀ : g₀ <+: g₁) (hg₁ : g₁ <+: g₂)
    (ho₀ : o₀ <+: o₁) (ho₁ : o₁ <+: o₂)
    (hback : (g₂ ++ o₂).eraseDups = (g₀ ++ o₀).eraseDups) :
    (g₁ ++ o₁).eraseDups = (g₀ ++ o₀).eraseDups := by
  obtain ⟨d, rfl⟩ := hg₁
  obtain ⟨n, rfl⟩ := ho₀
  -- behind `g₁` the last offer has what the first one has outside `g₁`
  have hrest : ((d ++ o₂).removeAll g₁).eraseDups = (o₀.removeAll g₁).eraseDups := by
    have hleft : ((g₁ ++ d ++ o₂).eraseDups).removeAll g₁ = ((d ++ o₂).removeAll g₁).eraseDups := by
      have hnil : g₁.removeAll g₁ = [] := removeAll_eq_nil fun x hx => hx
      rw [← eraseDups_removeAll, List.append_assoc]
      simp only [List.removeAll, List.filter_append] at hnil ⊢
      rw [hnil, List.nil_append]
    have hright : ((g₀ ++ o₀).eraseDups).removeAll g₁ = (o₀.removeAll g₁).eraseDups := by
      rw [← eraseDups_removeAll]
      have hnil : g₀.removeAll g₁ = [] := removeAll_eq_nil fun x hx => hg₀.subset hx
      simp only [List.removeAll, List.filter_append] at hnil ⊢
      rw [hnil, List.nil_append]
    rw [← hleft, ← hright, hback]
  -- what the second list won in between stands in the first offer already
  have hnew : ((n.removeAll g₁).removeAll (o₀.removeAll g₁)) = [] := by
    apply removeAll_eq_nil
    intro x hx
    simp only [List.removeAll, List.mem_filter, List.elem_eq_mem, Bool.not_eq_true',
      decide_eq_false_iff_not] at hx ⊢
    have hmem : x ∈ (g₀ ++ o₀).eraseDups := by
      rw [← hback, List.mem_eraseDups]
      exact List.mem_append_right _ (ho₁.subset (List.mem_append_right _ hx.1))
    rcases List.mem_append.1 (List.mem_eraseDups.1 hmem) with h | h
    · exact absurd (hg₀.subset h) hx.2
    · exact ⟨h, hx.2⟩
  have hown : ((o₀ ++ n).removeAll g₁).eraseDups = (o₀.removeAll g₁).eraseDups := by
    have happ : (o₀ ++ n).removeAll g₁ = o₀.removeAll g₁ ++ n.removeAll g₁ := by
      simp [List.removeAll]
    rw [happ, List.eraseDups_append, hnew]
    simp
  calc (g₁ ++ (o₀ ++ n)).eraseDups = g₁.eraseDups ++ ((o₀ ++ n).removeAll g₁).eraseDups :=
        List.eraseDups_append
    _ = g₁.eraseDups ++ ((d ++ o₂).removeAll g₁).eraseDups := by rw [hown, hrest]
    _ = (g₁ ++ d ++ o₂).eraseDups := by rw [← List.eraseDups_append, List.append_assoc]
    _ = (g₀ ++ o₀).eraseDups := hback

end Offers

/-- What two growing lists of paths offer without repetitions, compared by components, does not come back
either. -/
theorem sameList_between {g₀ g₁ g₂ o₀ o₁ o₂ : List Path} (hg₀ : g₀ <+: g₁) (hg₁ : g₁ <+: g₂)
    (ho₀ : o₀ <+: o₁) (ho₁ : o₁ <+: o₂)
    (hback : Path.sameList (distinctPaths (g₀ ++ o₀)) (distinctPaths (g₂ ++ o₂)) = true) :
    Path.sameList (distinctPaths (g₀ ++ o₀)) (distinctPaths (g₁ ++ o₁)) = true := by
  simp only [sameList_iff, map_components_distinctPaths, List.map_append] at hback ⊢
  exact (eraseDups_between (hg₀.map _) (hg₁.map _) (ho₀.map _) (ho₁.map _) hback.symm).symm

end LibraryPaths
