import LibraryPaths.Proofs.Reference.Require
import LibraryPaths.Proofs.Session.Serving
import LibraryPaths.Session.Loop

/-!
# Lines that are never read

An edit is reported by the range it filled, but the range is read when the report is handled.  If other
edits have moved the lines by then, a line that was typed may be in no range that is read.

To say which lines are missed, edits are taken without their texts: typed lines have labels, and a draft
keeps the labels of the buffer's lines, the ranges that wait, and the labels of the lines that were read
(`Draft`).  A text for every label turns such a run into one of a loop (`Loop.stroke`).

* `Follows.run`: a loop follows its draft through every run;
* `coversText_iff_complete`: for a text, all names in the buffer are tracked iff those on unread lines happen
  to be, and they are for every text iff no line is unread;
* `not_forall_coversText`: a line can be missed.
-/

set_option autoImplicit false

namespace LibraryPaths

/-- What the editor does to an attached buffer, and what the loop does meanwhile. -/
inductive Stroke where
  /-- A range is replaced by lines with some labels, and the new range is reported. -/
  | type (first last : Nat) (labels : List Nat)
  /-- The first report that waits is handled. -/
  | receive
  /-- Time passes. -/
  | wait (milliseconds : Nat)
  /-- A passed deadline is answered by a reconcile pass. -/
  | expire

/-- A buffer without its texts. -/
structure Draft where
  /-- The labels of the lines. -/
  lines : List Nat
  /-- The ranges that were reported and not yet read. -/
  waiting : List (Nat × Nat)
  /-- The labels of the lines that were read. -/
  read : List Nat

namespace Draft

/-- Lines that were just read as a whole, labelled by their numbers. -/
def ofLines (lines : List String) : Draft := ⟨List.range lines.length, [], List.range lines.length⟩

/-- A draft after a stroke. -/
def stroke (draft : Draft) : Stroke → Draft
  | .type first last labels =>
    let first := min first draft.lines.length
    let last := max first (min last draft.lines.length)
    { draft with
      lines := draft.lines.take first ++ labels ++ draft.lines.drop last
      waiting := draft.waiting ++ [(first, first + labels.length)] }
  | .receive =>
    match draft.waiting with
    | [] => draft
    | (first, last) :: waiting =>
      { draft with waiting, read := draft.read ++ (draft.lines.take last).drop first }
  | .wait _ => draft
  | .expire => draft

/-- A draft after some strokes. -/
def run (draft : Draft) (strokes : List Stroke) : Draft := strokes.foldl stroke draft

/-- Every line was read. -/
def Complete (draft : Draft) : Prop := ∀ label ∈ draft.lines, label ∈ draft.read

instance (draft : Draft) : Decidable draft.Complete :=
  inferInstanceAs (Decidable (∀ label ∈ draft.lines, label ∈ draft.read))

end Draft

namespace Loop

/-- A loop whose session has just attached a buffer. -/
def attached (session : Session) (now : Nat) (client : Client) (buffer : Nat) : Loop :=
  ⟨(session.attach now client buffer).1, [], now⟩

/-- A loop after a stroke, given the texts of the labels. -/
def stroke (text : Nat → String) (buffer : Nat) (loop : Loop) : Stroke → Loop
  | .type first last labels =>
    match loop.session.env.buffers.setLines buffer first last (labels.map text) with
    | .ok (buffers, first, last) =>
      (loop.edit fun env => { env with buffers }).send (.changed buffer first last)
    | .error _ => loop
  | .receive => (loop.act? .receive).getD loop
  | .wait milliseconds => { loop with now := loop.now + milliseconds }
  | .expire => (loop.act? .expire).getD loop

/-- A loop after some strokes. -/
def strokes (text : Nat → String) (buffer : Nat) (loop : Loop) (strokes : List Stroke) : Loop :=
  strokes.foldl (stroke text buffer) loop

end Loop

/-- The texts of the first labels are given lines. -/
def Fits (text : Nat → String) (lines : List String) : Prop :=
  (List.range lines.length).map text = lines

instance (text : Nat → String) (lines : List String) : Decidable (Fits text lines) :=
  inferInstanceAs (Decidable ((List.range lines.length).map text = lines))

/-! ## A loop and its draft -/

/-- A loop is what a draft becomes with the texts of the labels, and what the draft has read is tracked. -/
structure Follows (text : Nat → String) (buffer : Nat) (attachment : Attachment) (loop : Loop)
    (draft : Draft) : Prop where
  attached : loop.session.tracker.attachments.find? buffer = some attachment
  lines : (loop.session.env.buffers.find? buffer).map (·.lines) = some (draft.lines.map text)
  queue : loop.queue = draft.waiting.map fun (first, last) => .changed buffer first last
  tracked : ∀ label ∈ draft.read, ∀ name ∈ Reference.names (text label),
    loop.session.picture.Tracks attachment.scope name

namespace Follows

variable {text : Nat → String} {buffer : Nat} {attachment : Attachment} {loop : Loop} {draft : Draft}

theorem text_eq (h : Follows text buffer attachment loop draft) :
    loop.session.env.buffers.text buffer = draft.lines.map text := by
  obtain ⟨content, hfind, hlines⟩ := Option.map_eq_some_iff.1 h.lines
  unfold Buffers.text
  rw [hfind]
  exact hlines

theorem type (h : Follows text buffer attachment loop draft) (first last : Nat) (labels : List Nat) :
    Follows text buffer attachment (loop.stroke text buffer (.type first last labels))
      (draft.stroke (.type first last labels)) := by
  obtain ⟨content, hfind, hlines⟩ := Option.map_eq_some_iff.1 h.lines
  obtain ⟨next, hset, hnext⟩ := Buffers.find?_setLines hfind first last (labels.map text)
  have hlength : content.lines.length = draft.lines.length := by rw [hlines, List.length_map]
  unfold Loop.stroke
  simp only
  rw [hset]
  refine ⟨h.attached, ?_, ?_, ?_⟩
  · show (next.find? buffer).map (·.lines) = _
    rw [hnext]
    simp [Draft.stroke, hlines, List.map_take, List.map_drop]
  · show loop.queue ++ [_] = _
    rw [h.queue]
    simp [Draft.stroke, hlength]
  · intro label hlabel name hname
    obtain ⟨answer, hanswer, hroot⟩ := h.tracked label hlabel name hname
    exact ⟨answer, hanswer, hroot⟩

/-- The first report that waits is next in the queue, and makes the session read the lines that stand in its
range now. -/
theorem reads?_of_waiting (h : Follows text buffer attachment loop draft) {first last : Nat}
    {waiting : List (Nat × Nat)} (hwaiting : draft.waiting = (first, last) :: waiting) :
    loop.queue = .changed buffer first last ::
        waiting.map (fun (first, last) => .changed buffer first last) ∧
      loop.session.picture.reads? (.changed buffer first last) =
        some (attachment.scope, ((draft.lines.take last).drop first).map text) := by
  have hattached : loop.session.picture.attachments.find? buffer = some attachment := h.attached
  refine ⟨by rw [h.queue, hwaiting]; rfl, ?_⟩
  simp only [Picture.reads?, hattached, Option.map_some, Session.picture_buffers]
  rw [Buffers.range_eq, h.text_eq, List.map_drop, List.map_take]

theorem receive (h : Follows text buffer attachment loop draft) :
    Follows text buffer attachment (loop.stroke text buffer .receive) (draft.stroke .receive) := by
  unfold Loop.stroke Loop.act? Draft.stroke
  cases hwaiting : draft.waiting with
  | nil =>
    have hqueue : loop.queue = [] := by rw [h.queue, hwaiting]; rfl
    simp only [hqueue]
    exact h
  | cons range waiting =>
    obtain ⟨first, last⟩ := range
    obtain ⟨hqueue, hreads⟩ := h.reads?_of_waiting hwaiting
    simp only [hqueue, Option.getD_some]
    have hpicture := Session.picture_handle loop.now loop.session (.changed buffer first last)
    refine ⟨?_, ?_, rfl, ?_⟩
    · show (loop.session.handle loop.now _).picture.attachments.find? buffer = _
      rw [hpicture]
      exact Picture.find?_after_of_some h.attached (by simp)
    · show ((loop.session.handle loop.now _).picture.buffers.find? buffer).map _ = _
      rw [hpicture, Picture.find?_buffers_after]
      exact h.lines
    · intro label hlabel name hname
      show (loop.session.handle loop.now _).picture.Tracks attachment.scope name
      rw [hpicture]
      rcases List.mem_append.1 hlabel with hlabel | hlabel
      · exact (h.tracked label hlabel name hname).after _
      · apply Picture.tracks_after_of_reads hreads
        exact List.mem_flatMap.2 ⟨text label, List.mem_map_of_mem hlabel, hname⟩

theorem expire (h : Follows text buffer attachment loop draft) :
    Follows text buffer attachment (loop.stroke text buffer .expire) (draft.stroke .expire) := by
  unfold Loop.stroke
  simp only [Loop.act?]
  split
  · have hpicture := Session.picture_reconcile loop.now loop.session
    refine ⟨?_, ?_, h.queue, ?_⟩
    · show (loop.session.reconcile loop.now).1.picture.attachments.find? buffer = _
      rw [hpicture]
      exact h.attached
    · show ((loop.session.reconcile loop.now).1.picture.buffers.find? buffer).map _ = _
      rw [hpicture]
      exact h.lines
    · intro label hlabel name hname
      show (loop.session.reconcile loop.now).1.picture.Tracks attachment.scope name
      rw [hpicture]
      exact h.tracked label hlabel name hname
  · exact h

theorem stroke (h : Follows text buffer attachment loop draft) (s : Stroke) :
    Follows text buffer attachment (loop.stroke text buffer s) (draft.stroke s) := by
  cases s with
  | type first last labels => exact h.type first last labels
  | receive => exact h.receive
  | wait milliseconds => exact ⟨h.attached, h.lines, h.queue, h.tracked⟩
  | expire => exact h.expire

/-- **A loop follows its draft through every run.** -/
theorem run (h : Follows text buffer attachment loop draft) (strokes : List Stroke) :
    Follows text buffer attachment (loop.strokes text buffer strokes) (draft.run strokes) := by
  induction strokes generalizing loop draft with
  | nil => exact h
  | cons s strokes ih => exact ih (h.stroke s)

theorem covers_iff (h : Follows text buffer attachment loop draft) {name : String} :
    loop.session.Covers buffer name ↔ loop.session.picture.Tracks attachment.scope name :=
  Session.covers_iff h.attached

/-- The names in a buffer are tracked iff those on unread lines are. -/
theorem coversText_iff (h : Follows text buffer attachment loop draft) :
    loop.session.CoversText buffer ↔
      ∀ label ∈ draft.lines, label ∉ draft.read → ∀ name ∈ Reference.names (text label),
        loop.session.Covers buffer name := by
  have hnames : Reference.namesInLines (loop.session.env.buffers.text buffer) =
      draft.lines.flatMap fun label => Reference.names (text label) := by
    rw [h.text_eq, Reference.namesInLines, List.flatMap_map]
  unfold Session.CoversText
  rw [hnames]
  constructor
  · exact fun hcovers label hlabel _ name hname =>
      hcovers name (List.mem_flatMap.2 ⟨label, hlabel, hname⟩)
  · intro hunread name hname
    obtain ⟨label, hlabel, hname⟩ := List.mem_flatMap.1 hname
    by_cases hread : label ∈ draft.read
    · exact h.covers_iff.2 (h.tracked label hread name hname)
    · exact hunread label hlabel hread name hname

end Follows

/-! ## From the attachment on -/

namespace Session

variable {before : Session} {now : Nat} {client : Client} {buffer : Nat} {text : Nat → String}

/-- A buffer that was just attached follows its draft, for every text that fits its lines. -/
theorem follows_attach (hattach : (before.attach now client buffer).2 = true)
    (htext : Fits text (before.env.buffers.text buffer)) :
    ∃ attachment, Follows text buffer attachment (Loop.attached before now client buffer)
      (.ofLines (before.env.buffers.text buffer)) := by
  rw [snd_attach, Option.isSome_iff_exists] at hattach
  obtain ⟨⟨scope, lines⟩, hreads⟩ := hattach
  obtain ⟨-, subscription, hfind⟩ := Picture.admits?_of_reads hreads
  have hpicture := picture_attach now before client buffer
  have hopen : (before.env.buffers.find? buffer).isSome ∧ lines = before.env.buffers.text buffer := by
    simp only [Picture.reads?, picture_buffers] at hreads
    split at hreads
    · rename_i hsubscribe
      exact ⟨Buffers.isSome_of_subscribe hsubscribe, (Prod.mk.inj (Option.some.inj hreads)).2.symm⟩
    · cases hreads
  obtain ⟨hsome, rfl⟩ := hopen
  refine ⟨⟨scope, subscription⟩, ?_, ?_, rfl, ?_⟩
  · show (before.attach now client buffer).1.picture.attachments.find? buffer = _
    rw [hpicture]
    exact hfind
  · show ((before.attach now client buffer).1.picture.buffers.find? buffer).map _ = _
    rw [hpicture, Picture.find?_buffers_after, picture_buffers]
    obtain ⟨content, hcontent⟩ := Option.isSome_iff_exists.1 hsome
    have hlines : before.env.buffers.text buffer = content.lines := by
      unfold Buffers.text
      rw [hcontent]
    rw [hcontent, Option.map_some]
    exact congrArg some (hlines.symm.trans htext.symm)
  · intro label hlabel name hname
    show (before.attach now client buffer).1.picture.Tracks scope name
    rw [hpicture]
    apply Picture.tracks_after_of_reads hreads
    rw [← htext]
    exact List.mem_flatMap.2 ⟨text label, List.mem_map_of_mem hlabel, hname⟩

end Session

/-! ## A line that is missed -/

namespace Draft

variable {draft : Draft} {label : Nat}

theorem read_stroke (draft : Draft) (s : Stroke) : draft.read ⊆ (draft.stroke s).read := by
  cases s with
  | receive =>
    simp only [stroke]
    split
    · exact fun _ h => h
    · exact fun _ h => List.mem_append_left _ h
  | type first last labels => exact fun _ h => h
  | wait milliseconds => exact fun _ h => h
  | expire => exact fun _ h => h

/-- What was read stays read. -/
theorem read_run (draft : Draft) (strokes : List Stroke) : draft.read ⊆ (draft.run strokes).read := by
  induction strokes generalizing draft with
  | nil => exact fun _ h => h
  | cons s strokes ih => exact fun _ h => ih _ (read_stroke draft s h)

end Draft

namespace Follows

variable {text : Nat → String} {buffer : Nat} {attachment : Attachment} {loop : Loop} {draft : Draft}
  {label : Nat} {name : String}

/-- A name that only one label's text refers to stays unknown as long as that label is not read. -/
theorem find?_stroke (h : Follows text buffer attachment loop draft)
    (hnames : ∀ other, other ≠ label → name ∉ Reference.names (text other)) (s : Stroke)
    (hunread : label ∉ (draft.stroke s).read) :
    (loop.stroke text buffer s).session.tracker.resolutions.find? name =
      loop.session.tracker.resolutions.find? name := by
  cases s with
  | type first last labels =>
    unfold Loop.stroke
    simp only
    split <;> rfl
  | wait milliseconds => rfl
  | expire =>
    unfold Loop.stroke
    simp only [Loop.act?]
    split
    · exact congrArg (·.resolutions.find? name) (Session.picture_reconcile loop.now loop.session)
    · rfl
  | receive =>
    simp only [Draft.stroke] at hunread
    simp only [Loop.stroke, Loop.act?]
    cases hwaiting : draft.waiting with
    | nil =>
      have hqueue : loop.queue = [] := by rw [h.queue, hwaiting]; rfl
      simp only [hqueue]
      rfl
    | cons range waiting =>
      obtain ⟨first, last⟩ := range
      obtain ⟨hqueue, hreads⟩ := h.reads?_of_waiting hwaiting
      rw [hwaiting] at hunread
      simp only [hqueue, Option.getD_some]
      show (loop.session.handle loop.now _).picture.resolutions.find? name = _
      rw [Session.picture_handle]
      apply Picture.find?_after_of_reads hreads
      intro hmem
      obtain ⟨line, hline, hname⟩ := List.mem_flatMap.1 hmem
      obtain ⟨other, hother, rfl⟩ := List.mem_map.1 hline
      have hne : other ≠ label := fun heq => hunread (List.mem_append_right _ (heq ▸ hother))
      exact hnames other hne hname

/-- The same through a run. -/
theorem find?_run (h : Follows text buffer attachment loop draft)
    (hnames : ∀ other, other ≠ label → name ∉ Reference.names (text other)) (strokes : List Stroke)
    (hunread : label ∉ (draft.run strokes).read) :
    (loop.strokes text buffer strokes).session.tracker.resolutions.find? name =
      loop.session.tracker.resolutions.find? name := by
  induction strokes generalizing loop draft with
  | nil => rfl
  | cons s strokes ih =>
    have hthen : label ∉ (draft.stroke s).read := fun hmem => hunread (Draft.read_run _ strokes hmem)
    exact (ih (h.stroke s) hunread).trans (h.find?_stroke hnames s hthen)

end Follows

/-! ## The exact condition -/

/-- Texts that fit some lines and differ from the empty one at one other label at most. -/
def textOf (lines : List String) (label : Nat) (line : String) (i : Nat) : String :=
  if i < lines.length then lines.getD i "" else if i = label then line else ""

theorem fits_textOf (lines : List String) (label : Nat) (line : String) :
    Fits (textOf lines label line) lines := by
  refine List.ext_getElem (by simp) ?_
  intro i hi hlines
  simp [textOf, hlines]

theorem mem_known_of_find? {resolutions : Resolutions} {name : String} {answer : Resolution}
    (h : resolutions.find? name = some answer) : name ∈ resolutions.known.map (·.1) := by
  obtain ⟨before, after, hknown, -⟩ := List.lookup_eq_some_iff.1 h
  rw [hknown]
  simp

namespace Session

variable {before : Session} {now : Nat} {client : Client} {buffer : Nat} {strokes : List Stroke}
  {label : Nat}

/-- A line that was not read can be given a text such that a name on it is not tracked. -/
theorem exists_not_coversText (hattach : (before.attach now client buffer).2 = true)
    (hlabel : label ∈ ((Draft.ofLines (before.env.buffers.text buffer)).run strokes).lines)
    (hunread : label ∉ ((Draft.ofLines (before.env.buffers.text buffer)).run strokes).read) :
    ∃ text, Fits text (before.env.buffers.text buffer) ∧
      ¬ ((Loop.attached before now client buffer).strokes text buffer
        strokes).session.CoversText buffer := by
  let lines := before.env.buffers.text buffer
  let known := (Loop.attached before now client buffer).session.tracker.resolutions.known
  obtain ⟨length, hnew⟩ := Reference.exists_name_notMem (known.map (·.1))
  let name := String.ofList (Reference.plainName length)
  let text := textOf lines label (Reference.requireLine length)
  have htext : Fits text lines := fits_textOf lines label _
  obtain ⟨attachment, hfollows⟩ := follows_attach hattach htext
  have hlarge : ¬ label < lines.length := fun hlt =>
    hunread (Draft.read_run _ strokes (List.mem_range.2 hlt))
  have hlast : text label = Reference.requireLine length := by
    simp [text, textOf, hlarge]
  have hunknown : (Loop.attached before now client buffer).session.tracker.resolutions.find? name =
      none := by
    apply Option.eq_none_iff_forall_ne_some.2
    intro answer hfind
    exact hnew (mem_known_of_find? hfind)
  -- the other labels have the lines that were read at first, whose names are known, or no text
  have hnames : ∀ other, other ≠ label → name ∉ Reference.names (text other) := by
    intro other hne hmem
    by_cases hother : other < lines.length
    · obtain ⟨answer, hfind, -⟩ := hfollows.tracked other (List.mem_range.2 hother) name hmem
      exact absurd (hunknown.symm.trans hfind) (by simp)
    · have hempty : text other = "" := by simp [text, textOf, hother, hne]
      rw [hempty, Reference.names_empty] at hmem
      cases hmem
  refine ⟨text, htext, ?_⟩
  intro hcovers
  have hname : name ∈ Reference.names (text label) := by
    rw [hlast]
    exact Reference.mem_names_requireLine length
  have hrun := hfollows.run strokes
  obtain ⟨answer, hfind, -⟩ :=
    hrun.covers_iff.1 (hrun.coversText_iff.1 hcovers label hlabel hunread name hname)
  have hstill := (hfollows.find?_run hnames strokes hunread).trans hunknown
  exact absurd (hstill.symm.trans hfind) (by simp)

/-- **The names in a buffer are tracked for every text iff every line was read.**  A buffer is attached;
the editor edits it, reporting every edit by the range it filled, while the loop handles reports at any
later moments.  What becomes of the lines, the ranges and what is read is the same for all texts (`Draft`).
For each text the names in the buffer are tracked iff those on unread lines happen to be.  They are tracked
whenever no report waits, whatever the texts, iff no line is unread then. -/
theorem coversText_iff_complete (hattach : (before.attach now client buffer).2 = true)
    (strokes : List Stroke) {draft : Draft}
    (hdraft : draft = (Draft.ofLines (before.env.buffers.text buffer)).run strokes) :
    (∀ text, Fits text (before.env.buffers.text buffer) →
      ∀ last, last = (Loop.attached before now client buffer).strokes text buffer strokes →
      (last.session.CoversText buffer ↔
        ∀ label ∈ draft.lines, label ∉ draft.read → ∀ name ∈ Reference.names (text label),
          last.session.Covers buffer name)) ∧
    ((∀ text, Fits text (before.env.buffers.text buffer) →
      ∀ last, last = (Loop.attached before now client buffer).strokes text buffer strokes →
      last.queue = [] → last.session.CoversText buffer) ↔
    (draft.waiting = [] → draft.Complete)) := by
  subst hdraft
  have hfollows : ∀ text, Fits text (before.env.buffers.text buffer) → ∃ attachment,
      Follows text buffer attachment ((Loop.attached before now client buffer).strokes text buffer strokes)
        ((Draft.ofLines (before.env.buffers.text buffer)).run strokes) := fun text htext => by
    obtain ⟨attachment, h⟩ := follows_attach hattach htext
    exact ⟨attachment, h.run strokes⟩
  refine ⟨?_, ?_, ?_⟩
  · intro text htext last hlast
    obtain ⟨attachment, h⟩ := hfollows text htext
    rw [hlast]
    exact h.coversText_iff
  · intro hall hwaiting label hlabel
    by_contra hunread
    obtain ⟨text, htext, hmissed⟩ := exists_not_coversText hattach hlabel hunread
    obtain ⟨attachment, h⟩ := hfollows text htext
    refine hmissed (hall text htext _ rfl ?_)
    rw [h.queue, hwaiting]
    rfl
  · intro hcomplete text htext last hlast hqueue
    obtain ⟨attachment, h⟩ := hfollows text htext
    rw [hlast] at hqueue ⊢
    have hwaiting := h.queue
    rw [hqueue, eq_comm, List.map_eq_nil_iff] at hwaiting
    apply h.coversText_iff.2
    intro label hlabel hunread
    exact absurd (hcomplete hwaiting label hlabel) hunread

/-- A line is typed and handled, and then every name is tracked. -/
theorem coversText_iff_complete_small :
    ((Loop.attached (small 0 "") 0 smallClient 1).strokes (fun i => if i = 1 then "require \"m\"" else "")
      1 [.type 0 0 [1], .receive]).session.CoversText 1 :=
  (coversText_iff_complete (by decide +kernel) [.type 0 0 [1], .receive] rfl).2.2
    (fun _ => by decide +kernel) _ (by decide +kernel) _ rfl (by decide +kernel)

/-- A line can be missed: it is typed, and a line is put above it before its range is read. -/
theorem not_forall_coversText :
    ¬ ∀ (before : Session) (now : Nat) (client : Client) (buffer : Nat) (text : Nat → String)
        (strokes : List Stroke), (before.attach now client buffer).2 = true →
      Fits text (before.env.buffers.text buffer) →
      ∀ last, last = (Loop.attached before now client buffer).strokes text buffer strokes →
      last.queue = [] → last.session.CoversText buffer := by
  intro h
  have hcovers := h (small 0 "") 0 smallClient 1 (fun i => if i = 1 then "require \"m\"" else "")
    [.type 0 0 [1], .type 0 0 [2, 3], .receive, .receive] (by decide +kernel) (by decide +kernel) _ rfl
    (by decide +kernel) "m" (by decide +kernel)
  obtain ⟨attachment, -, answer, hfind, -⟩ := hcovers
  have hunknown : ((Loop.attached (small 0 "") 0 smallClient 1).strokes
      (fun i => if i = 1 then "require \"m\"" else "") 1
      [.type 0 0 [1], .type 0 0 [2, 3], .receive, .receive]).session.tracker.resolutions.find? "m" =
        none := by decide +kernel
  exact absurd (hunknown.symm.trans hfind) (by simp)

end Session

end LibraryPaths
