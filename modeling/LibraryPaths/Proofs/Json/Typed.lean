import Mathlib.Data.List.Forall2
import LibraryPaths.Json.Typed
import LibraryPaths.Proofs.Json.Numbers
import LibraryPaths.Proofs.Json.Strings

/-!
# Values of a known type

How an integer, a string and a list of strings are written, with the value that each of them has, and that the
readers give this value and leave what stands behind.

* `gives_readUnsigned`: integers of 64 bits without a sign;
* `gives_readText`, `gives_readOptionalText`: strings, and a null in the place of one;
* `gives_readTexts`: lists of strings.
-/

set_option autoImplicit false

namespace LibraryPaths.Json

variable {c : Char} {n limit : Nat} {text rest after : List Char} {pieces : List Piece} {value expected : String}
  {values : List String}

/-! ## How values are written -/

/-- An integer of 64 bits without sign, point and exponent. -/
structure WritesNumber (text : List Char) (n : Nat) : Prop where
  whole : Whole text
  value : Nat.ofDigitChars 10 text 0 = n
  bounded : n < Nat.pow 2 64

/-- A string that spells a text. -/
def WritesText (text : List Char) (value : String) : Prop :=
  ∃ pieces, text = inQuotes pieces ∧ Spells pieces value.toList

/-- A list of strings. -/
def WritesTexts (text : List Char) (values : List String) : Prop :=
  ∃ gap items, text = '[' :: (enclosed gap (items.map Padded.text) ++ [']']) ∧
    List.Forall₂ (fun (item : Padded) value => WritesText item.value value) items values

/-! ## Integers -/

theorem le_ofDigitChars (n : Nat) (digits : List Char) : n ≤ Nat.ofDigitChars 10 digits n := by
  induction digits generalizing n with
  | nil => exact Nat.le_refl n
  | cons c digits ih =>
    have := ih (10 * n + (c.toNat - '0'.toNat))
    rw [Nat.ofDigitChars_cons]
    omega

/-- Digits are collected as long as their value stays within the limit. -/
theorem collect_eq {digits : List Char} (h : Nat.ofDigitChars 10 digits n ≤ limit) :
    collect limit n digits = (Nat.ofDigitChars 10 digits n, []) := by
  induction digits generalizing n with
  | nil => rfl
  | cons c digits ih =>
    have hnext : n * 10 + digitOf c = 10 * n + (c.toNat - '0'.toNat) := by
      rw [Nat.mul_comm]
      rfl
    rw [Nat.ofDigitChars_cons] at h ⊢
    have hle := Nat.le_trans (le_ofDigitChars _ digits) h
    rw [collect, hnext, if_neg (by omega)]
    exact ih h

theorem gives_readNumber (h : WritesNumber text n) (hrest : EndsNumber rest) :
    gives (readNumber (text ++ rest)) = .ok (.unsigned n, rest) := by
  have hnumeral := readNumeral_whole .endInValue h.whole hrest
  have hcollect : collect maxSignificand 0 text = (n, []) := by
    rw [← h.value]
    exact collect_eq (by rw [h.value]; exact Nat.le_sub_one_of_lt h.bounded)
  have hvalue : (Numeral.mk false text none none).value rest = .ok (.unsigned n) := by
    simp [Numeral.value, Numeral.integer?, Numeral.wholePart, hcollect]
  unfold readNumber
  split
  · rename_i heq
    cases hnumeral.symm.trans heq
  · rename_i heq
    cases hnumeral.symm.trans heq
    rw [hvalue]
    rfl

/-- **An integer is read.** -/
theorem gives_readUnsigned (h : WritesNumber text n) (before : Blank) (hrest : EndsNumber rest) :
    gives (readUnsigned (before.1 ++ (text ++ rest))) = .ok (n, rest) := by
  have hnumber := gives_readNumber h hrest
  obtain ⟨c, others, rfl, hc⟩ := h.whole.1.exists_cons
  have hblank := skipBlank_blank_cons before (not_isJsonBlank_of_startsNumber hc) (others ++ rest)
  rw [List.cons_append] at hnumber ⊢
  obtain ⟨_, hnumber⟩ := gives_eq_ok hnumber
  unfold readUnsigned
  split <;> rename_i heq <;> cases hblank.symm.trans heq
  rw [if_pos hc, hnumber]
  rfl

/-! ## Strings -/

/-- **A string is read.** -/
theorem gives_readText (expected : String) (h : WritesText text value) (before : Blank) (rest : List Char) :
    gives (readText expected (before.1 ++ (text ++ rest))) = .ok (value, rest) := by
  obtain ⟨pieces, rfl, hspells⟩ := h
  obtain ⟨_, hstring⟩ := gives_eq_ok (gives_readString hspells rest)
  have hquote := skipBlank_blank_cons before (c := '"') rfl (written pieces ++ '"' :: rest)
  rw [inQuotes_append]
  unfold readText
  split <;> rename_i heq <;> cases hquote.symm.trans heq
  rw [if_pos rfl, hstring]
  exact congrArg (fun text => Except.ok (text, rest)) (String.ofList_toList)

/-- Where a string may be missing, it is read all the same. -/
theorem gives_readOptionalText (h : WritesText text value) (before : Blank) (rest : List Char) :
    gives (readOptionalText expected (before.1 ++ (text ++ rest))) = .ok (some value, rest) := by
  obtain ⟨_, htext⟩ := gives_eq_ok (gives_readText expected h before rest)
  obtain ⟨pieces, rfl, -⟩ := h
  have hquote := skipBlank_blank_cons before (c := '"') rfl (written pieces ++ '"' :: rest)
  rw [← inQuotes_append] at hquote
  unfold readOptionalText
  split
  · rename_i heq
    cases hquote.symm.trans heq
  · rw [htext]
    rfl

/-- A null stands for a missing string. -/
theorem gives_readOptionalText_null (before : Blank) (rest : List Char) :
    gives (readOptionalText expected (before.1 ++ ("null".toList ++ rest))) = .ok (none, rest) := by
  obtain ⟨_, hword⟩ := leaves_eq_ok (leaves_skipWord "ull".toList rest)
  have hnull := skipBlank_blank_cons before (c := 'n') rfl ("ull".toList ++ rest)
  rw [show "null".toList ++ rest = 'n' :: ("ull".toList ++ rest) from rfl]
  unfold readOptionalText
  split
  · rename_i heq
    cases hnull.symm.trans heq
    rw [hword]
    rfl
  · rename_i hother
    exact absurd hnull (hother _)

/-! ## Lists -/

theorem nextItem_closed (h : skipBlank text = ']' :: rest) (isFirst : Bool) :
    ∃ hrest, nextItem isFirst text = .ok (.closed ⟨rest, hrest⟩) := by
  unfold nextItem
  split <;> rename_i heq <;> cases h.symm.trans heq
  exact ⟨length_lt_of_skipBlank h, if_pos rfl⟩

theorem nextItem_first (h : skipBlank text = c :: rest) (hc : c ≠ ']') :
    ∃ hrest, nextItem true text = .ok (.item ⟨c :: rest, hrest⟩) := by
  unfold nextItem
  split <;> rename_i heq <;> cases h.symm.trans heq
  rw [if_neg hc, if_pos rfl]
  exact ⟨length_cons_le_of_skipBlank h, rfl⟩

theorem nextItem_other {behind : List Char} (h : skipBlank text = ',' :: behind)
    (hbehind : skipBlank behind = c :: rest) (hc : c ≠ ']') :
    ∃ hrest, nextItem false text = .ok (.item ⟨c :: rest, hrest⟩) := by
  unfold nextItem
  split <;> rename_i heq <;> cases h.symm.trans heq
  rw [if_neg (by decide), if_neg (by decide), if_pos rfl]
  split <;> rename_i heq' <;> cases hbehind.symm.trans heq'
  rw [if_neg hc]
  exact ⟨length_cons_le_of_skipBlank_of_lt hbehind (length_lt_of_skipBlank h), rfl⟩

theorem gives_readTextItems_closed (h : skipBlank text = ']' :: rest) (isFirst : Bool) :
    gives (readTextItems isFirst text) = .ok ([], rest) := by
  obtain ⟨_, hnext⟩ := nextItem_closed h isFirst
  rw [readTextItems, hnext]
  rfl

theorem gives_readTextItems_item {isFirst : Bool} {start : List Char} {hstart : start.length ≤ text.length}
    (hnext : nextItem isFirst text = .ok (.item ⟨start, hstart⟩))
    (hitem : gives (readText "a string" start) = .ok (value, after))
    (hothers : gives (readTextItems false after) = .ok (values, rest)) :
    gives (readTextItems isFirst text) = .ok (value :: values, rest) := by
  obtain ⟨_, hitem⟩ := gives_eq_ok hitem
  obtain ⟨_, hothers⟩ := gives_eq_ok hothers
  rw [readTextItems, hnext]
  simp only
  rw [hitem]
  simp only
  rw [hothers]
  rfl

/-- An item that is a string begins with a quote, and is read from there. -/
theorem exists_readText_item {item : Padded} (h : WritesText item.value value) (rest : List Char) :
    ∃ start, skipBlank (item.text ++ rest) = '"' :: start ∧
      gives (readText "a string" ('"' :: start)) = .ok (value, item.after.1 ++ rest) := by
  have hread := gives_readText "a string" h noBlank (item.after.1 ++ rest)
  obtain ⟨pieces, hpieces, -⟩ := h
  rw [hpieces, noBlank_append, inQuotes_append] at hread
  refine ⟨_, ?_, hread⟩
  rw [Padded.text, hpieces, List.append_assoc, List.append_assoc, inQuotes_append]
  exact skipBlank_blank_cons item.before rfl _

/-- Strings behind the first one are read, up to and with the closing bracket. -/
theorem gives_readTextItems_others {items : List Padded}
    (h : List.Forall₂ (fun (item : Padded) value => WritesText item.value value) items values)
    (before : Blank) (rest : List Char) :
    gives (readTextItems false (before.1 ++ ((items.map Padded.text).flatMap (',' :: ·) ++ ']' :: rest))) =
      .ok (values, rest) := by
  induction h generalizing before with
  | nil => exact gives_readTextItems_closed (skipBlank_blank_cons before rfl rest) false
  | @cons item value items values hitem _ ih =>
    obtain ⟨start, hstart, hread⟩ :=
      exists_readText_item hitem ((items.map Padded.text).flatMap (',' :: ·) ++ ']' :: rest)
    rw [List.map_cons, List.flatMap_cons, List.append_assoc, List.cons_append]
    obtain ⟨_, hnext⟩ := nextItem_other (skipBlank_blank_cons before rfl _) hstart (by decide)
    exact gives_readTextItems_item hnext hread (ih item.after)

theorem gives_readTextItems {items : List Padded} (gap : Blank)
    (h : List.Forall₂ (fun (item : Padded) value => WritesText item.value value) items values)
    (rest : List Char) :
    gives (readTextItems true (enclosed gap (items.map Padded.text) ++ ']' :: rest)) = .ok (values, rest) := by
  cases h with
  | nil => exact gives_readTextItems_closed (skipBlank_blank_cons gap rfl rest) true
  | @cons item value items values hitem hitems =>
    obtain ⟨start, hstart, hread⟩ :=
      exists_readText_item hitem ((items.map Padded.text).flatMap (',' :: ·) ++ ']' :: rest)
    rw [List.map_cons, enclosed, List.append_assoc]
    obtain ⟨_, hnext⟩ := nextItem_first hstart (by decide)
    exact gives_readTextItems_item hnext hread (gives_readTextItems_others hitems item.after rest)

/-- **A list of strings is read.** -/
theorem gives_readTexts (h : WritesTexts text values) (before : Blank) (rest : List Char) :
    gives (readTexts (before.1 ++ (text ++ rest))) = .ok (values, rest) := by
  obtain ⟨gap, items, rfl, hitems⟩ := h
  have hlist := skipBlank_blank_cons before (c := '[') rfl
    (enclosed gap (items.map Padded.text) ++ ']' :: rest)
  obtain ⟨_, hread⟩ := gives_eq_ok (gives_readTextItems gap hitems rest)
  rw [List.cons_append, List.append_assoc, List.singleton_append]
  unfold readTexts
  split <;> rename_i heq <;> cases hlist.symm.trans heq
  rw [if_pos rfl, hread]
  rfl

end LibraryPaths.Json
