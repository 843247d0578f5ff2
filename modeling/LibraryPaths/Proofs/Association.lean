/-!
# Association lists

Records, answers, attachments and buffers are kept in lists of pairs of which the first with a key counts.
These are the ways in which such a list changes, seen through `List.lookup`.
-/

set_option autoImplicit false

namespace LibraryPaths.Association

variable {α β : Type} [DecidableEq α]

/-- A pair put behind all others counts if its key is new. -/
theorem lookup_concat (entries : List (α × β)) (key k : α) (value : β)
    (h : entries.lookup key = none) :
    (entries ++ [(key, value)]).lookup k = if k = key then some value else entries.lookup k := by
  rw [List.lookup_append]
  by_cases hk : k = key
  · subst hk; simp [h]
  · have hne : (k == key) = false := by simpa using hk
    simp [List.lookup_cons, hk, hne]

/-- Replacing the values of a key changes the value of that key alone. -/
theorem lookup_replace (entries : List (α × β)) (key k : α) (value : β) :
    (entries.map fun (a, b) => if a = key then (a, value) else (a, b)).lookup k =
      if k = key then (entries.lookup k).map fun _ => value else entries.lookup k := by
  induction entries with
  | nil => simp
  | cons entry entries ih =>
    obtain ⟨a, b⟩ := entry
    rw [List.map_cons]
    by_cases ha : a = key
    · subst ha
      by_cases hk : k = a
      · subst hk; simp
      · have hne : (k == a) = false := by simpa using hk
        simp only [↓reduceIte, List.lookup_cons, hne, ih, if_neg hk]
    · by_cases hk : k = a
      · subst hk; simp [ha]
      · have hne : (k == a) = false := by simpa using hk
        simp only [if_neg ha, List.lookup_cons, hne, ih]

/-- Taking the pairs of a key away leaves the others. -/
theorem lookup_filter_of_ne (entries : List (α × β)) {key k : α} (h : k ≠ key) :
    (entries.filter (·.1 != key)).lookup k = entries.lookup k := by
  induction entries with
  | nil => rfl
  | cons entry entries ih =>
    obtain ⟨a, b⟩ := entry
    by_cases ha : a = key
    · subst ha
      have hne : (k == a) = false := by simpa using h
      simp [List.lookup_cons, hne, ih]
    · by_cases hk : k = a
      · subst hk; simp [ha]
      · have hne : (k == a) = false := by simpa using hk
        simp [List.lookup_cons, ha, hne, ih]

/-- Taking the pairs of a key away leaves none with that key. -/
theorem lookup_filter_self (entries : List (α × β)) (key : α) :
    (entries.filter (·.1 != key)).lookup key = none := by
  rw [List.lookup_eq_none_iff]
  intro entry hentry
  have hne : entry.1 ≠ key := by simpa using (List.mem_filter.1 hentry).2
  exact bne_iff_ne.2 (Ne.symm hne)

/-- Pairs with different keys may stand in any order. -/
theorem lookup_perm {κ ν : Type} [BEq κ] [LawfulBEq κ] {entries others : List (κ × ν)}
    (h : entries.Perm others) (hnodup : (entries.map Prod.fst).Nodup) (k : κ) :
    entries.lookup k = others.lookup k := by
  induction h with
  | nil => rfl
  | cons entry _ ih => rw [List.lookup_cons, List.lookup_cons, ih (List.nodup_cons.1 hnodup).2]
  | swap entry first rest =>
    obtain ⟨a, b⟩ := entry
    obtain ⟨a', b'⟩ := first
    have hne : a ≠ a' := by
      rintro rfl
      simp at hnodup
    cases hfirst : k == a' with
    | false => simp [List.lookup_cons, hfirst]
    | true =>
      have hentry : (k == a) = false :=
        beq_false_of_ne fun hk => hne (hk.symm.trans (eq_of_beq hfirst))
      simp [List.lookup_cons, hfirst, hentry]
  | trans hfirst _ ihfirst ihrest =>
    rw [ihfirst hnodup, ihrest ((hfirst.map Prod.fst).nodup hnodup)]

end LibraryPaths.Association
