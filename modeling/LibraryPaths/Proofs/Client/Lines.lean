import LibraryPaths.Proofs.Association
import LibraryPaths.Client.Buffers

/-!
# Reading and typing lines

What a session sees of a buffer is its lines (`Buffers.text`) and the lines of a range (`Buffers.range`),
which is cut to the buffer (`range_eq`).  Subscriptions do not touch them; an edit replaces a range
(`find?_setLines`) and leaves the lines around it (`text_setLines`).  An editor that refuses nothing grants a
subscription to every open buffer (`subscribe_of_isSome`).
-/

set_option autoImplicit false

namespace LibraryPaths.Buffers

/-- The lines of a range of a buffer; a buffer that is not open has none. -/
def range (buffers : Buffers) (buffer first last : Nat) : List String :=
  match buffers.getLines buffer first last with
  | .ok lines => lines
  | .error _ => []

/-- The lines of a buffer; a buffer that is not open has none. -/
def text (buffers : Buffers) (buffer : Nat) : List String :=
  match buffers.find? buffer with
  | some content => content.lines
  | none => []

variable {buffers : Buffers} {buffer first last : Nat}

/-- A range is cut to the buffer. -/
theorem range_eq (buffers : Buffers) (buffer first last : Nat) :
    buffers.range buffer first last = ((buffers.text buffer).take last).drop first := by
  unfold range getLines text
  cases buffers.find? buffer with
  | none => simp
  | some content =>
    simp only
    rw [← List.take_eq_take_min, List.drop_eq_drop_iff, List.length_take]
    omega

theorem find?_subscribe (buffers : Buffers) (buffer b : Nat) :
    (buffers.subscribe buffer).1.find? b = buffers.find? b := by
  unfold subscribe
  simp only
  split
  · rfl
  · split <;> rfl

theorem find?_unsubscribe (buffers : Buffers) (number b : Nat) :
    (buffers.unsubscribe number).find? b = buffers.find? b := rfl

theorem text_congr {other : Buffers} (h : other.find? buffer = buffers.find? buffer) :
    other.text buffer = buffers.text buffer := by
  unfold text
  rw [h]

/-- A subscription that was granted is one to an open buffer. -/
theorem isSome_of_subscribe {number : Nat} (h : (buffers.subscribe buffer).2 = .ok number) :
    (buffers.find? buffer).isSome := by
  unfold subscribe at h
  simp only at h
  split at h
  · cases h
  · split at h
    · cases h
    · rename_i hopen
      simpa [Option.isSome_iff_ne_none] using hopen

theorem find?_put (buffers : Buffers) (buffer b : Nat) (content : Buffer) :
    (buffers.put buffer content).find? b = if b = buffer then some content else buffers.find? b := by
  unfold put
  cases h : buffers.find? buffer with
  | some old =>
    refine (Association.lookup_replace buffers.opened buffer b content).trans ?_
    by_cases hb : b = buffer
    · subst hb
      have hopened : buffers.opened.lookup b = some old := h
      simp [hopened]
    · simp only [if_neg hb]; rfl
  | none => exact Association.lookup_concat buffers.opened buffer b content h

/-- An edit of an open buffer replaces a range and answers with the place of the new lines. -/
theorem find?_setLines {content : Buffer} (h : buffers.find? buffer = some content)
    (first last : Nat) (replacement : List String) :
    ∃ next,
      buffers.setLines buffer first last replacement =
        .ok (next, min first content.lines.length,
          min first content.lines.length + replacement.length) ∧
      next.find? buffer = some
        { content with
          lines := content.lines.take (min first content.lines.length) ++ replacement ++
            content.lines.drop
              (max (min first content.lines.length) (min last content.lines.length)) } := by
  unfold setLines
  rw [h]
  refine ⟨_, rfl, ?_⟩
  rw [find?_put, if_pos rfl]

/-- An edit leaves the other buffers alone. -/
theorem find?_setLines_of_ne {next : Buffers} {replacement : List String} {range : Nat × Nat} {b : Nat}
    (h : buffers.setLines buffer first last replacement = .ok (next, range)) (hb : b ≠ buffer) :
    next.find? b = buffers.find? b := by
  unfold setLines at h
  cases hopen : buffers.find? buffer with
  | none => simp [hopen] at h
  | some content =>
    rw [hopen] at h
    obtain ⟨rfl, -⟩ := Prod.mk.inj (Except.ok.inj h)
    rw [find?_put, if_neg hb]

theorem find?_load (buffers : Buffers) (buffer : Nat) (path : Option Path) (content : String) :
    (buffers.load buffer path content).find? buffer = some ⟨path, textLines content⟩ := by
  unfold load
  rw [find?_put, if_pos rfl]

theorem find?_load_of_ne {b : Nat} (hb : b ≠ buffer) (path : Option Path) (content : String) :
    (buffers.load buffer path content).find? b = buffers.find? b := by
  unfold load
  rw [find?_put, if_neg hb]

/-! ## Buffers of an editor that refuses nothing -/

/-- Where nothing is refused, a subscription to an open buffer is granted. -/
theorem subscribe_of_isSome (hrefuses : ∀ k, buffers.refuses k = false)
    (hopen : (buffers.find? buffer).isSome) :
    (buffers.subscribe buffer).2 = .ok (buffers.issued + 1) := by
  unfold subscribe
  simp [hrefuses, Option.isSome_iff_ne_none.1 hopen]

theorem refuses_subscribe (buffers : Buffers) (buffer : Nat) :
    (buffers.subscribe buffer).1.refuses = buffers.refuses := by
  unfold subscribe
  simp only
  split
  · rfl
  · split <;> rfl

theorem refuses_load (buffers : Buffers) (buffer : Nat) (path : Option Path) (content : String) :
    (buffers.load buffer path content).refuses = buffers.refuses := by
  unfold load put
  split <;> rfl

end LibraryPaths.Buffers
