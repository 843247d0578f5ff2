import LibraryPaths.Proofs.Json.Numbers
import LibraryPaths.Proofs.Json.Strings

/-!
# Values that are skipped

Every value is skipped, however deep it is nested: behind it the reader goes on with what follows, in the lists
and objects that it was in (`leaves_skipValue`).  The induction is on the grammar; the lists and objects around
the value are arbitrary.
-/

set_option autoImplicit false

namespace LibraryPaths.Json

variable {c : Char} {text rest after value : List Char} {frame : Frame} {outer stack : List Frame}

/-! ## Steps -/

theorem leaves_skipValue_list (h : skipBlank text = '[' :: rest) :
    leaves (skipValue stack text) = leaves (skipFirst .list stack rest) := by
  rw [skipValue]
  split <;> rename_i heq <;> cases h.symm.trans heq
  rw [if_pos rfl]
  cases skipFirst .list stack rest <;> rfl

theorem leaves_skipValue_object (h : skipBlank text = '\x7b' :: rest) :
    leaves (skipValue stack text) = leaves (skipFirst .object stack rest) := by
  rw [skipValue]
  split <;> rename_i heq <;> cases h.symm.trans heq
  rw [if_neg (by decide), if_pos rfl]
  cases skipFirst .object stack rest <;> rfl

theorem leaves_skipValue_scalar (h : skipBlank text = c :: rest) (hlist : c ≠ '[') (hobject : c ≠ '\x7b')
    (hscalar : leaves (skipScalar (c :: rest)) = .ok after) :
    leaves (skipValue stack text) = leaves (skipRest stack after) := by
  obtain ⟨_, hscalar⟩ := leaves_eq_ok hscalar
  rw [skipValue]
  split <;> rename_i heq <;> cases h.symm.trans heq
  rw [if_neg hlist, if_neg hobject, hscalar]
  simp only
  cases skipRest stack after <;> rfl

theorem leaves_skipFirst_closing (h : skipBlank text = frame.closing :: rest) :
    leaves (skipFirst frame stack text) = leaves (skipRest stack rest) := by
  rw [skipFirst]
  split <;> rename_i heq <;> cases h.symm.trans heq
  rw [if_pos rfl]
  cases skipRest stack rest <;> rfl

theorem leaves_skipFirst_item (h : skipBlank text = c :: rest) (hc : c ≠ frame.closing) :
    leaves (skipFirst frame stack text) = leaves (skipItem frame stack (c :: rest)) := by
  rw [skipFirst]
  split <;> rename_i heq <;> cases h.symm.trans heq
  rw [if_neg hc]
  cases skipItem frame stack (c :: rest) <;> rfl

theorem leaves_skipRest_comma (h : skipBlank text = ',' :: rest) :
    leaves (skipRest (frame :: outer) text) = leaves (skipItem frame outer rest) := by
  rw [skipRest]
  split <;> rename_i heq <;> cases h.symm.trans heq
  rw [if_pos rfl]
  cases skipItem frame outer rest <;> rfl

theorem leaves_skipRest_closing (h : skipBlank text = frame.closing :: rest) :
    leaves (skipRest (frame :: outer) text) = leaves (skipRest outer rest) := by
  have hcomma : frame.closing ≠ ',' := by cases frame <;> decide
  rw [skipRest]
  split <;> rename_i heq <;> cases h.symm.trans heq
  rw [if_neg hcomma, if_pos rfl]
  cases skipRest outer rest <;> rfl

theorem leaves_skipItem_list :
    leaves (skipItem .list outer text) = leaves (skipValue (.list :: outer) text) := by
  rw [skipItem]

theorem leaves_skipItem_object (h : leaves (skipKey text) = .ok rest) :
    leaves (skipItem .object outer text) = leaves (skipValue (.object :: outer) rest) := by
  obtain ⟨_, hkey⟩ := leaves_eq_ok h
  rw [skipItem, hkey]
  simp only
  cases skipValue (.object :: outer) rest <;> rfl

/-! ## Words, strings, numbers and keys -/

theorem leaves_skipScalar_word {word : List Char}
    (h : word ∈ ["null".toList, "true".toList, "false".toList]) (rest : List Char) :
    leaves (skipScalar (word ++ rest)) = .ok rest := by
  simp only [List.mem_cons, List.not_mem_nil, or_false] at h
  rcases h with rfl | rfl | rfl
  · obtain ⟨_, hword⟩ := leaves_eq_ok (leaves_skipWord "ull".toList rest)
    rw [show "null".toList ++ rest = 'n' :: ("ull".toList ++ rest) from rfl, skipScalar, if_pos rfl, hword]
    rfl
  · obtain ⟨_, hword⟩ := leaves_eq_ok (leaves_skipWord "rue".toList rest)
    rw [show "true".toList ++ rest = 't' :: ("rue".toList ++ rest) from rfl, skipScalar,
      if_neg (by decide), if_pos rfl, hword]
    rfl
  · obtain ⟨_, hword⟩ := leaves_eq_ok (leaves_skipWord "alse".toList rest)
    rw [show "false".toList ++ rest = 'f' :: ("alse".toList ++ rest) from rfl, skipScalar,
      if_neg (by decide), if_neg (by decide), if_pos rfl, hword]
    rfl

theorem leaves_skipScalar_string (pieces : List Piece) (rest : List Char) :
    leaves (skipScalar (inQuotes pieces ++ rest)) = .ok rest := by
  obtain ⟨_, hstring⟩ := leaves_eq_ok (leaves_skipString pieces rest)
  rw [inQuotes_append, skipScalar, if_neg (by decide), if_neg (by decide), if_neg (by decide), if_pos rfl,
    hstring]
  rfl

theorem leaves_skipScalar_number {number : List Char} (h : IsNumber number) (hrest : EndsNumber rest) :
    leaves (skipScalar (number ++ rest)) = .ok rest := by
  obtain ⟨numeral, hnumeral⟩ := exists_readNumeral .invalidNumber h hrest
  obtain ⟨c, others, rfl, hc⟩ := h.exists_cons
  have hne := fun d => ne_of_startsNumber (d := d) hc
  rw [List.cons_append] at hnumeral ⊢
  rw [skipScalar, if_neg (hne _ rfl), if_neg (hne _ rfl), if_neg (hne _ rfl), if_neg (hne _ rfl), if_pos hc]
  split <;> rename_i heq <;> cases hnumeral.symm.trans heq
  rfl

theorem leaves_skipKey (before between : Blank) (name : List Piece) (rest : List Char) :
    leaves (skipKey (before.1 ++ (inQuotes name ++ (between.1 ++ ':' :: rest)))) = .ok rest := by
  have hquote := skipBlank_blank_cons before (c := '"') rfl
    (written name ++ '"' :: (between.1 ++ ':' :: rest))
  have hcolon := skipBlank_blank_cons between (c := ':') rfl rest
  obtain ⟨_, hstring⟩ := leaves_eq_ok (leaves_skipString name (between.1 ++ ':' :: rest))
  rw [inQuotes_append]
  unfold skipKey
  split <;> rename_i heq <;> cases hquote.symm.trans heq
  rw [if_pos rfl, hstring]
  simp only
  split
  · rename_i heq'
    cases hcolon.symm.trans heq'
  · rename_i heq'
    cases hcolon.symm.trans heq'
    rfl
  · rename_i hother
    exact absurd hcolon (hother rest)

/-! ## Between brackets -/

/-- A text goes on with a comma or with the closing bracket. -/
def EndsItem (frame : Frame) (rest : List Char) : Prop :=
  ∃ behind, rest = ',' :: behind ∨ rest = frame.closing :: behind

theorem not_isJsonBlank_closing (frame : Frame) : isJsonBlank frame.closing = false := by
  cases frame <;> rfl

theorem EndsItem.endsNumber (h : EndsItem frame rest) : EndsNumber rest := by
  rcases h with ⟨behind, rfl | rfl⟩ <;> rintro c hc <;> cases hc
  · decide
  · cases frame <;> decide

theorem EndsItem.leaves_skipRest_blank (h : EndsItem frame rest) (blank : Blank) :
    leaves (skipRest (frame :: outer) (blank.1 ++ rest)) = leaves (skipRest (frame :: outer) rest) := by
  have hclosing := not_isJsonBlank_closing frame
  rcases h with ⟨behind, rfl | rfl⟩
  · rw [leaves_skipRest_comma (skipBlank_blank_cons blank rfl behind),
      leaves_skipRest_comma (skipBlank_cons rfl behind)]
  · rw [leaves_skipRest_closing (skipBlank_blank_cons blank hclosing behind),
      leaves_skipRest_closing (skipBlank_cons hclosing behind)]

/-- An item of a list, or a member of an object, is skipped.  White space may stand in front. -/
structure Skips (frame : Frame) (item : List Char) : Prop where
  starts : ∃ c others, item = c :: others ∧ isJsonBlank c = false ∧ c ≠ frame.closing
  leaves_eq : ∀ (before : Blank) (outer : List Frame) (rest : List Char), EndsItem frame rest →
    leaves (skipItem frame outer (before.1 ++ (item ++ rest))) = leaves (skipRest (frame :: outer) rest)

section

variable {α : Type} (before : α → Blank) (item : α → List Char) {items : List α}

theorem endsItem_items (frame : Frame) (items : List (List Char)) (rest : List Char) :
    EndsItem frame (items.flatMap (',' :: ·) ++ frame.closing :: rest) := by
  cases items with
  | nil => exact ⟨rest, .inr rfl⟩
  | cons => exact ⟨_, .inl rfl⟩

/-- Items behind the first one are skipped, up to and with the closing bracket. -/
theorem leaves_skipRest_items (h : ∀ a ∈ items, Skips frame (item a)) (outer : List Frame) (rest : List Char) :
    leaves (skipRest (frame :: outer)
      ((items.map fun a => (before a).1 ++ item a).flatMap (',' :: ·) ++ frame.closing :: rest)) =
      leaves (skipRest outer rest) := by
  induction items with
  | nil => exact leaves_skipRest_closing (skipBlank_cons (not_isJsonBlank_closing frame) rest)
  | cons a items ih =>
    rw [List.map_cons, List.flatMap_cons, List.cons_append, List.cons_append,
      leaves_skipRest_comma (skipBlank_cons rfl _), List.append_assoc, List.append_assoc,
      (h a List.mem_cons_self).leaves_eq _ _ _ (endsItem_items frame _ rest)]
    exact ih fun b hb => h b (List.mem_cons_of_mem a hb)

/-- What stands between two brackets is skipped, with the closing one. -/
theorem leaves_skipFirst_enclosed (gap : Blank) (h : ∀ a ∈ items, Skips frame (item a)) (outer : List Frame)
    (rest : List Char) :
    leaves (skipFirst frame outer
      (enclosed gap (items.map fun a => (before a).1 ++ item a) ++ frame.closing :: rest)) =
      leaves (skipRest outer rest) := by
  cases items with
  | nil => exact leaves_skipFirst_closing (skipBlank_blank_cons gap (not_isJsonBlank_closing frame) rest)
  | cons a items =>
    have hfirst := h a List.mem_cons_self
    obtain ⟨c, others, hitem, hblank, hclosing⟩ := hfirst.starts
    have hskip := hfirst.leaves_eq noBlank outer _
      (endsItem_items frame (items.map fun a => (before a).1 ++ item a) rest)
    rw [hitem, noBlank_append, List.cons_append] at hskip
    rw [List.map_cons, enclosed, List.append_assoc, List.append_assoc, hitem, List.cons_append,
      leaves_skipFirst_item (skipBlank_blank_cons (before a) hblank _) hclosing, hskip]
    exact leaves_skipRest_items before item (fun b hb => h b (List.mem_cons_of_mem a hb)) outer rest

end

/-! ## Values -/

theorem leaves_skipValue_of_scalar (before : Blank)
    (hvalue : ∃ c others, value = c :: others ∧ isJsonBlank c = false ∧ c ≠ '[' ∧ c ≠ '\x7b')
    (hscalar : leaves (skipScalar (value ++ rest)) = .ok rest) :
    leaves (skipValue stack (before.1 ++ (value ++ rest))) = leaves (skipRest stack rest) := by
  obtain ⟨c, others, rfl, hblank, hlist, hobject⟩ := hvalue
  exact leaves_skipValue_scalar (skipBlank_blank_cons before hblank _) hlist hobject hscalar

/-- A value begins with a character that is neither white space nor a closing bracket. -/
theorem IsValue.exists_cons (h : IsValue value) :
    ∃ c others, value = c :: others ∧ isJsonBlank c = false ∧ c ≠ ']' := by
  cases h with
  | word hword =>
    simp only [List.mem_cons, List.not_mem_nil, or_false] at hword
    rcases hword with rfl | rfl | rfl <;> exact ⟨_, _, rfl, rfl, by decide⟩
  | number hnumber =>
    obtain ⟨c, others, rfl, hc⟩ := hnumber.exists_cons
    exact ⟨c, others, rfl, not_isJsonBlank_of_startsNumber hc, ne_of_startsNumber hc rfl⟩
  | string pieces => exact ⟨_, _, rfl, rfl, by decide⟩
  | list => exact ⟨_, _, rfl, rfl, by decide⟩
  | object => exact ⟨_, _, rfl, rfl, by decide⟩

/-- **Every value is skipped.**  Behind it the reader goes on in the lists and objects around it.  Induction on
the grammar. -/
theorem leaves_skipValue (h : IsValue value) : ∀ (before : Blank) (stack : List Frame) (rest : List Char),
    EndsNumber rest →
    leaves (skipValue stack (before.1 ++ (value ++ rest))) = leaves (skipRest stack rest) := by
  induction h with
  | word hword =>
    intro before stack rest _
    refine leaves_skipValue_of_scalar before ?_ (leaves_skipScalar_word hword rest)
    simp only [List.mem_cons, List.not_mem_nil, or_false] at hword
    rcases hword with rfl | rfl | rfl <;> exact ⟨_, _, rfl, rfl, by decide, by decide⟩
  | number hnumber =>
    intro before stack rest hrest
    refine leaves_skipValue_of_scalar before ?_ (leaves_skipScalar_number hnumber hrest)
    obtain ⟨c, others, rfl, hc⟩ := hnumber.exists_cons
    exact ⟨c, others, rfl, not_isJsonBlank_of_startsNumber hc, ne_of_startsNumber hc rfl,
      ne_of_startsNumber hc rfl⟩
  | string pieces =>
    intro before stack rest _
    exact leaves_skipValue_of_scalar before ⟨_, _, rfl, rfl, by decide, by decide⟩
      (leaves_skipScalar_string pieces rest)
  | @list gap items hitems ih =>
    intro before stack rest _
    rw [List.cons_append, List.append_assoc,
      leaves_skipValue_list (skipBlank_blank_cons before rfl _)]
    refine leaves_skipFirst_enclosed Padded.before (fun item => item.value ++ item.after.1) gap
      (fun item hitem => ?_) stack rest
    refine ⟨?_, fun before outer rest hrest => ?_⟩
    · obtain ⟨c, others, hvalue, hc⟩ := (hitems item hitem).exists_cons
      exact ⟨c, others ++ item.after.1, by rw [hvalue]; rfl, hc⟩
    · rw [leaves_skipItem_list, List.append_assoc,
        ih item hitem before _ _ (endsNumber_blank_append item.after hrest.endsNumber),
        hrest.leaves_skipRest_blank]
  | @object gap members hmembers ih =>
    intro before stack rest _
    rw [List.cons_append, List.append_assoc,
      leaves_skipValue_object (skipBlank_blank_cons before rfl _)]
    refine leaves_skipFirst_enclosed Member.before
      (fun member => inQuotes member.name ++ (member.between.1 ++ ':' :: member.value.text)) gap
      (fun member hmember => (?_ : Skips .object _)) stack rest
    refine ⟨⟨_, _, rfl, rfl, by decide⟩, fun before outer rest hrest => ?_⟩
    have hkey := leaves_skipKey before member.between member.name (member.value.text ++ rest)
    rw [List.append_assoc, List.append_assoc, List.cons_append, leaves_skipItem_object hkey, Padded.text,
      List.append_assoc, List.append_assoc,
      ih member hmember _ _ _ (endsNumber_blank_append member.value.after hrest.endsNumber),
      hrest.leaves_skipRest_blank]

end LibraryPaths.Json
