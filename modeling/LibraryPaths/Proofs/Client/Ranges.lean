import Mathlib.Data.List.Nodup
import LibraryPaths.Proofs.Client.Lines
import LibraryPaths.Proofs.Session.Subscribed

/-!
# Ranges of lines

An edit cuts the beginning of its range to the buffer and then the end between the beginning and the length;
a read cuts the end first and then the beginning against it.  The *strict* operations below have no answer
where bounds cross or lie outside the buffer (`between?`, `splice?`, `slice?`); edits and reads written with
them always have one, whatever the range, and it is the answer of `Buffers.setLines` and `Buffers.getLines`.

* `strictSetLines?_eq`, `strictGetLines?_eq`: no step of an edit or of a read lacks an answer;
* `getLines_setLines`: what an edit answers with is where the replacement is read;
* `getElem?_slice`: a read gives the lines at the places that the range and the buffer share;
* `find?_perform`, `subscriptionsOf_perform`: no request touches a buffer that it is not about;
* `Numbered.performAll`, `Numbered.unique`: a request is about one buffer at most;
* `setLines_getLines_agree`: all of it together.
-/

set_option autoImplicit false

namespace LibraryPaths

/-! ## Operations that can lack an answer -/

/-- The number between two bounds that is nearest to a number; between bounds that cross there is none. -/
def between? (low high n : Nat) : Option Nat :=
  if low ≤ high then some (max low (min n high)) else none

/-- The lines with those of a range replaced, if the range is one of the list. -/
def splice? (lines : List String) (first last : Nat) (replacement : List String) :
    Option (List String) :=
  if first ≤ last ∧ last ≤ lines.length then
    some (lines.take first ++ replacement ++ lines.drop last)
  else none

/-- The lines of a range, if the range is one of the list. -/
def slice? (lines : List String) (first last : Nat) : Option (List String) :=
  if first ≤ last ∧ last ≤ lines.length then some ((lines.take last).drop first) else none

/-- The lines at the places that a range and the list share. -/
theorem getElem?_slice (lines : List String) (first last i : Nat) :
    ((lines.take last).drop first)[i]? = if first + i < last then lines[first + i]? else none := by
  rw [List.getElem?_drop, List.getElem?_take]

namespace Buffers

variable {buffers next : Buffers} {buffer first last b c : Nat} {content : Buffer}
  {replacement : List String}

/-- An edit whose steps may lack an answer. -/
def strictSetLines? (buffers : Buffers) (buffer first last : Nat) (replacement : List String) :
    Option (Except EditorError (Buffers × Nat × Nat)) :=
  match buffers.find? buffer with
  | none => some (.error (.bufferNotFound buffer))
  | some content =>
    let low := min first content.lines.length
    (between? low content.lines.length last).bind fun cut =>
      (splice? content.lines low cut replacement).map fun lines =>
        .ok (buffers.put buffer { content with lines }, low, low + replacement.length)

/-- A read whose steps may lack an answer. -/
def strictGetLines? (buffers : Buffers) (buffer first last : Nat) :
    Option (Except EditorError (List String)) :=
  match buffers.find? buffer with
  | none => some (.error (.bufferNotFound buffer))
  | some content =>
    let cut := min last content.lines.length
    (slice? content.lines (min first cut) cut).map .ok

/-- **No step of an edit lacks an answer.** -/
theorem strictSetLines?_eq (buffers : Buffers) (buffer first last : Nat) (replacement : List String) :
    buffers.strictSetLines? buffer first last replacement =
      some (buffers.setLines buffer first last replacement) := by
  unfold strictSetLines? setLines
  cases buffers.find? buffer with
  | none => rfl
  | some content =>
    have hlow : min first content.lines.length ≤ content.lines.length := Nat.min_le_right _ _
    have hcut : max (min first content.lines.length) (min last content.lines.length) ≤
        content.lines.length := Nat.max_le.2 ⟨hlow, Nat.min_le_right _ _⟩
    simp only [between?, if_pos hlow, Option.bind_some, splice?,
      if_pos (And.intro (Nat.le_max_left _ _) hcut), Option.map_some]

/-- **No step of a read lacks an answer.** -/
theorem strictGetLines?_eq (buffers : Buffers) (buffer first last : Nat) :
    buffers.strictGetLines? buffer first last = some (buffers.getLines buffer first last) := by
  unfold strictGetLines? getLines
  cases buffers.find? buffer with
  | none => rfl
  | some content =>
    have hfirst : min first (min last content.lines.length) ≤ min last content.lines.length :=
      Nat.min_le_right _ _
    simp only [slice?, if_pos (And.intro hfirst (Nat.min_le_right last content.lines.length)),
      Option.map_some]

/-! ## Edits and reads -/

/-- A read of an open buffer gives the lines of the range. -/
theorem getLines_of_find? (h : buffers.find? buffer = some content) (first last : Nat) :
    buffers.getLines buffer first last = .ok ((content.lines.take last).drop first) := by
  have hrange := range_eq buffers buffer first last
  unfold range text at hrange
  rw [h] at hrange
  unfold getLines at hrange ⊢
  rw [h] at hrange ⊢
  exact congrArg Except.ok hrange

theorem lineCount_of_find? (h : buffers.find? buffer = some content) :
    buffers.lineCount buffer = .ok content.lines.length := by
  unfold lineCount
  rw [h]

/-- **An edit answers with the place of its replacement.** -/
theorem getLines_setLines {low high : Nat}
    (h : buffers.setLines buffer first last replacement = .ok (next, low, high)) :
    next.getLines buffer low high = .ok replacement := by
  cases hopen : buffers.find? buffer with
  | none => simp [setLines, hopen] at h
  | some content =>
    obtain ⟨edited, hset, hedited⟩ := find?_setLines hopen first last replacement
    obtain ⟨rfl, rfl, rfl⟩ : edited = next ∧ _ = low ∧ _ = high := by
      simpa [Except.ok.injEq] using hset.symm.trans h
    have hlow : (content.lines.take (min first content.lines.length)).length =
        min first content.lines.length := by simp
    rw [getLines_of_find? hedited]
    simp only
    rw [List.take_left' (by rw [List.length_append, hlow]), List.drop_left' hlow]

/-! ## Requests -/

/-- What an editor is asked to do with its buffers. -/
inductive Request where
  /-- A buffer is opened, edited or closed. -/
  | change (c : Change)
  /-- A subscription to a buffer is asked for. -/
  | subscribe (buffer : Nat)
  /-- A subscription ends. -/
  | unsubscribe (number : Nat)

/-- The buffers after a request. -/
def perform (buffers : Buffers) : Request → Buffers
  | .change c => buffers.change c
  | .subscribe buffer => (buffers.subscribe buffer).1
  | .unsubscribe number => buffers.unsubscribe number

/-- The buffers after some requests. -/
def performAll (buffers : Buffers) (requests : List Request) : Buffers :=
  requests.foldl perform buffers

/-- Whether a request is about a buffer.  To end a subscription is about the buffer that it is one to. -/
def IsAbout (buffers : Buffers) : Request → Nat → Prop
  | .change (.load buffer _ _), b => b = buffer
  | .change (.setLines buffer _ _ _), b => b = buffer
  | .change (.close buffer), b => b = buffer
  | .subscribe buffer, b => b = buffer
  | .unsubscribe number, b => (number, b) ∈ buffers.subscriptions

/-- The live subscriptions to a buffer, by number. -/
def subscriptionsOf (buffers : Buffers) (buffer : Nat) : List Nat :=
  (buffers.subscriptions.filter (·.2 == buffer)).map (·.1)

theorem find?_close_of_ne (buffers : Buffers) (h : b ≠ buffer) :
    (buffers.close buffer).find? b = buffers.find? b :=
  Association.lookup_filter_of_ne buffers.opened h

/-- **No request touches the path and the lines of a buffer that it is not about.** -/
theorem find?_perform {request : Request} (h : ¬ buffers.IsAbout request b) :
    (buffers.perform request).find? b = buffers.find? b := by
  cases request with
  | change c =>
    cases c with
    | load buffer path content => exact find?_load_of_ne h path content
    | setLines buffer first last replacement =>
      simp only [perform, change]
      split
      · rename_i edited range hset
        exact find?_setLines_of_ne hset h
      · rfl
    | close buffer => exact find?_close_of_ne buffers h
  | subscribe buffer => exact find?_subscribe buffers buffer b
  | unsubscribe number => rfl

/-- Taking away subscriptions to other buffers leaves those to a buffer. -/
theorem filter_filter_of_keeps {subscriptions : List (Nat × Nat)} {keep : Nat × Nat → Bool}
    (h : ∀ s ∈ subscriptions, s.2 = b → keep s = true) :
    (subscriptions.filter keep).filter (·.2 == b) = subscriptions.filter (·.2 == b) := by
  rw [List.filter_filter]
  refine List.filter_congr fun s hs => ?_
  by_cases hb : s.2 = b
  · rw [h s hs hb, Bool.and_true]
  · rw [beq_false_of_ne hb, Bool.false_and]

/-- **No request touches the subscriptions to a buffer that it is not about.** -/
theorem subscriptionsOf_perform {request : Request} (h : ¬ buffers.IsAbout request b) :
    (buffers.perform request).subscriptionsOf b = buffers.subscriptionsOf b := by
  unfold subscriptionsOf
  refine congrArg (List.map _) ?_
  cases request with
  | change c =>
    rw [perform, (subscriptions_change buffers c).1]
    refine filter_filter_of_keeps fun s _ hs => ?_
    cases c with
    | close buffer =>
      have hother : b ≠ buffer := h
      simp [Change.closes, hs, hother]
    | _ => rfl
  | subscribe buffer =>
    rcases subscribe_cases buffers buffer with ⟨-, hsame, -⟩ | ⟨-, hadded, -⟩
    · rw [perform, hsame]
    · rw [perform, hadded, List.filter_append]
      have hother : (buffer == b) = false := beq_false_of_ne fun heq => h heq.symm
      simp [hother]
  | unsubscribe number =>
    refine filter_filter_of_keeps ?_
    rintro ⟨n, m⟩ hmem rfl
    refine bne_iff_ne.2 fun hnumber => h ?_
    change n = number at hnumber
    exact hnumber ▸ hmem

/-! ## Numbers of subscriptions -/

/-- Live subscriptions have numbers of their own, which were given before. -/
structure Numbered (buffers : Buffers) : Prop where
  nodup : (buffers.subscriptions.map (·.1)).Nodup
  le_issued : ∀ s ∈ buffers.subscriptions, s.1 ≤ buffers.issued

namespace Numbered

theorem of_empty : Buffers.empty.Numbered := ⟨List.nodup_nil, fun s hs => by cases hs⟩

theorem of_filter (h : buffers.Numbered) {keep : Nat × Nat → Bool}
    (hsubscriptions : next.subscriptions = buffers.subscriptions.filter keep)
    (hissued : next.issued = buffers.issued) : next.Numbered := by
  constructor
  · rw [hsubscriptions]
    exact h.nodup.sublist (List.filter_sublist.map _)
  · rw [hsubscriptions, hissued]
    exact fun s hs => h.le_issued s (List.mem_filter.1 hs).1

/-- A request keeps the numbers apart, since a new one is larger than all that were given. -/
theorem perform (h : buffers.Numbered) (request : Request) : (buffers.perform request).Numbered := by
  cases request with
  | change c =>
    obtain ⟨hsubscriptions, hissued⟩ := subscriptions_change buffers c
    exact h.of_filter hsubscriptions hissued
  | unsubscribe number => exact h.of_filter rfl rfl
  | subscribe buffer =>
    rcases subscribe_cases buffers buffer with ⟨-, hsame, hissued⟩ | ⟨-, hadded, hissued⟩
    · exact ⟨hsame ▸ h.nodup, by rw [Buffers.perform, hsame, hissued]; exact h.le_issued⟩
    · constructor
      · rw [Buffers.perform, hadded, List.map_append, List.nodup_append]
        refine ⟨h.nodup, by simp, ?_⟩
        intro n hn m hm hsame
        obtain ⟨s, hs, rfl⟩ := List.mem_map.1 hn
        have hle := h.le_issued s hs
        have hnew : m = buffers.issued + 1 := List.mem_singleton.1 hm
        omega
      · rw [Buffers.perform, hadded, hissued]
        intro s hs
        rcases List.mem_append.1 hs with hs | hs
        · exact Nat.le_succ_of_le (h.le_issued s hs)
        · rw [List.mem_singleton.1 hs]

theorem performAll (h : buffers.Numbered) (requests : List Request) :
    (buffers.performAll requests).Numbered := by
  induction requests generalizing buffers with
  | nil => exact h
  | cons request requests ih => exact ih (h.perform request)

/-- **A request is about one buffer at most.** -/
theorem unique (h : buffers.Numbered) {request : Request} (hb : buffers.IsAbout request b)
    (hc : buffers.IsAbout request c) : b = c := by
  cases request with
  | change change => cases change <;> exact Eq.trans hb (Eq.symm hc)
  | subscribe buffer => exact Eq.trans hb (Eq.symm hc)
  | unsubscribe number =>
    have hsame := List.inj_on_of_nodup_map h.nodup hb hc rfl
    exact congrArg Prod.snd hsame

end Numbered

/-! ## All of it -/

/-- **Edits and reads agree on every range.**  Whatever the range, beyond the end of the buffer or inverted, no
step of an edit or of a read lacks an answer.  In an open buffer, the lines before the cut beginning and from the
cut end on stay, the replacement stands between them, and the edit answers with its place: a read of that range
gives the replacement, and the number of lines changes by that of the replacement less that of the lines between
the cut bounds.  A read gives the lines at the places that the range and the buffer share.  On a buffer that is
not open all of them fail.  No request touches the path, the lines or the subscriptions of a buffer that it is
not about, and whatever was asked for since the first buffer was opened, a request is about one buffer at
most. -/
theorem setLines_getLines_agree (buffers : Buffers) (buffer first last : Nat)
    (replacement : List String) :
    buffers.strictSetLines? buffer first last replacement =
      some (buffers.setLines buffer first last replacement) ∧
    buffers.strictGetLines? buffer first last = some (buffers.getLines buffer first last) ∧
    (∀ content, buffers.find? buffer = some content →
      ∃ low cut next,
        low = min first content.lines.length ∧ cut = max low (min last content.lines.length) ∧
        buffers.setLines buffer first last replacement = .ok (next, low, low + replacement.length) ∧
        next.find? buffer = some
          { content with
            lines := content.lines.take low ++ replacement ++ content.lines.drop cut } ∧
        next.getLines buffer low (low + replacement.length) = .ok replacement ∧
        (∃ count, next.lineCount buffer = .ok count ∧
          low + replacement.length ≤ count ∧
          count + (cut - low) = content.lines.length + replacement.length) ∧
        ∃ lines, buffers.getLines buffer first last = .ok lines ∧
          ∀ i, lines[i]? = if first + i < last then content.lines[first + i]? else none) ∧
    (buffers.find? buffer = none →
      buffers.setLines buffer first last replacement = .error (.bufferNotFound buffer) ∧
      buffers.getLines buffer first last = .error (.bufferNotFound buffer) ∧
      buffers.lineCount buffer = .error (.bufferNotFound buffer)) ∧
    (∀ request b, ¬ buffers.IsAbout request b →
      (buffers.perform request).find? b = buffers.find? b ∧
      (buffers.perform request).subscriptionsOf b = buffers.subscriptionsOf b) ∧
    ∀ requests request b c, (empty.performAll requests).IsAbout request b →
      (empty.performAll requests).IsAbout request c → b = c := by
  refine ⟨strictSetLines?_eq buffers buffer first last replacement, strictGetLines?_eq buffers buffer first last,
    ?_, ?_, fun request b hb => ⟨find?_perform hb, subscriptionsOf_perform hb⟩, ?_⟩
  · intro content hopen
    obtain ⟨next, hset, hnext⟩ := find?_setLines hopen first last replacement
    refine ⟨_, _, next, rfl, rfl, hset, hnext, getLines_setLines hset,
      ⟨_, lineCount_of_find? hnext, ?_, ?_⟩, ⟨_, getLines_of_find? hopen first last, getElem?_slice _ _ _⟩⟩
    all_goals
      simp only [List.length_append, List.length_take, List.length_drop]
      omega
  · intro hclosed
    refine ⟨?_, ?_, ?_⟩
    · simp [setLines, hclosed]
    · simp [getLines, hclosed]
    · simp [lineCount, hclosed]
  · intro requests request b c
    exact (Numbered.of_empty.performAll requests).unique

/-- A buffer with three lines. -/
def threeLines : Buffers := empty.load 1 none "a\nb\nc"

/-- On an inverted range an edit puts the replacement before the cut beginning, where a read finds it. -/
theorem setLines_getLines_agree_inverted :
    ∃ next,
      threeLines.strictSetLines? 1 2 1 ["x", "y"] = some (.ok (next, 2, 4)) ∧
      next.find? 1 = some ⟨none, ["a", "b", "x", "y", "c"]⟩ ∧
      next.getLines 1 2 4 = .ok ["x", "y"] ∧
      next.find? 2 = none := by
  obtain ⟨hstrict, -, hopen, -, hothers, -⟩ := setLines_getLines_agree threeLines 1 2 1 ["x", "y"]
  obtain ⟨low, cut, next, hlow, hcut, hset, hnext, hread, -, -⟩ :=
    hopen ⟨none, ["a", "b", "c"]⟩ (by decide +kernel)
  obtain rfl : low = 2 := hlow
  obtain rfl : cut = 2 := hcut
  refine ⟨next, by rw [hstrict, hset]; rfl, hnext, hread, ?_⟩
  have hother := (hothers (.change (.setLines 1 2 1 ["x", "y"])) 2 (by simp [IsAbout])).1
  simp only [perform, change, hset] at hother
  rw [hother]
  decide +kernel

end Buffers

end LibraryPaths
