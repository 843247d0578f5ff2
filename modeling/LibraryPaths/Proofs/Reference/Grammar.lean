import LibraryPaths.Reference.Occurrence

/-!
# The grammar of module references

What a reference is can be said without a reader: an opening (`Opening`), a quote, a module name (`IsName`)
and the same quote (`Refers`).  A text *selects* the references that are found by taking the leftmost one
again and again, each time from the end of the one before (`Selects`).  The reader does exactly that:

* `afterOpening?_append`, `quotedName?_eq_some_iff`, `occurrence?_eq_some_iff`: each part of the reader accepts
  what its part of the grammar describes, so at one place there is one way to read a reference;
* `selects_namesFrom`: the reader selects;
* `Selects.unique`, `selects_iff_names`: and nothing else is selected.
-/

set_option autoImplicit false

namespace LibraryPaths.Reference

variable {before : Option Char} {text opening rest reference name name' after : List Char} {c : Char}
  {start stop stop' position : Nat} {selected others : List (List Char)}

/-! ## The grammar -/

/-- White space, possibly none. -/
def Blanks (text : List Char) : Prop := ∀ c ∈ text, isBlank c = true

/-- A word character, followed by word characters, `.`, `/` and `-`. -/
def IsName (name : List Char) : Prop :=
  ∃ first rest, name = first :: rest ∧ isWordChar first = true ∧ ∀ c ∈ rest, isNameChar c = true

/-- One of the two quotes. -/
def IsQuote (c : Char) : Prop := c = '"' ∨ c = '\''

/-- What stands before the quoted name: the load word, which does not begin inside a word, white space, at
most one parenthesis and white space again; or the annotation and white space. -/
inductive Opening (before : Option Char) : List Char → Prop
  | load {blanks parenthesis more : List Char} (hbefore : ∀ c ∈ before, isWordChar c = false)
      (hblanks : Blanks blanks) (hparenthesis : parenthesis = [] ∨ parenthesis = ['('])
      (hmore : Blanks more) : Opening before (loadWord ++ blanks ++ parenthesis ++ more)
  | mark {blanks : List Char} (hblanks : Blanks blanks) : Opening before <| annotation ++ blanks

/-- A text that is a reference to a module, where `before` is the character to the left of it. -/
def Refers (before : Option Char) (reference name : List Char) : Prop :=
  ∃ opening quote, Opening before opening ∧ IsQuote quote ∧ IsName name ∧
    reference = opening ++ quote :: name ++ [quote]

/-- Between two positions of a text stands a reference to a module. -/
def OccursAt (text : List Char) (start stop : Nat) (name : List Char) : Prop :=
  ∃ front reference after, text = front ++ reference ++ after ∧ start = front.length ∧
    stop = front.length + reference.length ∧ Refers front.getLast? reference name

/-- The names of the references that are taken from a position on: the leftmost reference that begins there or
later, and what is taken from its end on. -/
inductive Selects (text : List Char) : Nat → List (List Char) → Prop
  | done {position : Nat} (hnone : ∀ start stop name, position ≤ start → ¬ OccursAt text start stop name) :
      Selects text position []
  | next {position start stop : Nat} {name : List Char} {names : List (List Char)}
      (hstart : position ≤ start) (hoccurs : OccursAt text start stop name)
      (hleftmost : ∀ earlier stop name, position ≤ earlier → earlier < start →
        ¬ OccursAt text earlier stop name)
      (hrest : Selects text stop names) : Selects text position (name :: names)

/-! ## Runs of characters -/

/-- A run ends before a character that does not belong to it. -/
theorem dropWhile_append_cons {p : Char → Bool} {run : List Char} (hrun : ∀ c ∈ run, p c = true)
    (hc : p c = false) (rest : List Char) : (run ++ c :: rest).dropWhile p = c :: rest := by
  rw [List.dropWhile_append_of_pos hrun, List.dropWhile_cons_of_neg (by simp [hc])]

theorem takeWhile_append_cons {p : Char → Bool} {run : List Char} (hrun : ∀ c ∈ run, p c = true)
    (hc : p c = false) (rest : List Char) : (run ++ c :: rest).takeWhile p = run := by
  rw [List.takeWhile_append_of_pos hrun, List.takeWhile_cons_of_neg (by simp [hc]), List.append_nil]

/-- A text is a run and what is left of it. -/
theorem exists_blanks (text : List Char) :
    ∃ blanks, Blanks blanks ∧ text = blanks ++ text.dropWhile isBlank :=
  ⟨text.takeWhile isBlank, fun _ hc => List.all_eq_true.1 List.all_takeWhile _ hc,
    List.takeWhile_append_dropWhile.symm⟩

theorem IsQuote.not_blank (h : IsQuote c) : isBlank c = false := by
  rcases h with rfl | rfl <;> decide

theorem IsQuote.ne_parenthesis (h : IsQuote c) : c ≠ '(' := by
  rcases h with rfl | rfl <;> decide

theorem IsQuote.not_nameChar (h : IsQuote c) : isNameChar c = false := by
  rcases h with rfl | rfl <;> decide

theorem isQuote_iff : (c == '"' || c == '\'') = true ↔ IsQuote c := by
  simp [IsQuote]

/-! ## Openings -/

/-- Behind a parenthesis, or its absence, white space has been skipped. -/
theorem afterParenthesis_cases (text : List Char) :
    ∃ parenthesis more, (parenthesis = [] ∨ parenthesis = ['(']) ∧ Blanks more ∧
      text = parenthesis ++ more ++ afterParenthesis text := by
  unfold afterParenthesis
  split
  · rename_i rest
    obtain ⟨more, hmore, hrest⟩ := exists_blanks rest
    exact ⟨['('], more, .inr rfl, hmore, congrArg ('(' :: ·) hrest⟩
  · exact ⟨[], [], .inl rfl, fun _ hc => absurd hc List.not_mem_nil, rfl⟩

/-- What the reader takes for an opening is one. -/
theorem opening_of_afterOpening? (h : afterOpening? before text = some rest) :
    ∃ opening, Opening before opening ∧ text = opening ++ rest := by
  unfold afterOpening? at h
  split at h
  · rename_i hload
    obtain ⟨hbegins, hbefore⟩ := Bool.and_eq_true_iff.1 hload
    obtain ⟨tail, rfl⟩ := List.isPrefixOf_iff_prefix.1 hbegins
    rw [List.drop_left] at h
    obtain ⟨blanks, hblanks, htail⟩ := exists_blanks tail
    obtain ⟨parenthesis, more, hparenthesis, hmore, hbehind⟩ :=
      afterParenthesis_cases (tail.dropWhile isBlank)
    obtain rfl := Option.some.inj h
    refine ⟨_, .load ?_ hblanks hparenthesis hmore, ?_⟩
    · intro c hc
      obtain rfl : before = some c := hc
      simpa using hbefore
    · calc loadWord ++ tail
          = loadWord ++ (blanks ++ tail.dropWhile isBlank) := congrArg _ htail
        _ = loadWord ++ (blanks ++ (parenthesis ++ more ++ afterParenthesis (tail.dropWhile isBlank))) :=
          congrArg (fun behind => loadWord ++ (blanks ++ behind)) hbehind
        _ = _ := by simp only [List.append_assoc]
  · split at h
    · rename_i hbegins
      obtain ⟨tail, rfl⟩ := List.isPrefixOf_iff_prefix.1 hbegins
      rw [List.drop_left] at h
      obtain ⟨blanks, hblanks, htail⟩ := exists_blanks tail
      obtain rfl := Option.some.inj h
      refine ⟨_, .mark hblanks, ?_⟩
      rw [List.append_assoc, ← htail]
    · cases h

/-- The two texts that begin an opening differ in their first character. -/
theorem not_load_mark (rest : List Char) : (loadWord.isPrefixOf <| annotation ++ rest) = false := rfl

/-- An opening before a quote is read to its end: a quote is neither white space nor a parenthesis. -/
theorem afterOpening?_append (hopening : Opening before opening) (hquote : IsQuote c) :
    afterOpening? before (opening ++ c :: rest) = some (c :: rest) := by
  have hblank := hquote.not_blank
  cases hopening with
  | @load blanks parenthesis more hbefore hblanks hparenthesis hmore =>
    have hword : (!before.any isWordChar) = true := by
      cases before with
      | none => rfl
      | some b => simpa using hbefore b rfl
    unfold afterOpening?
    rw [List.append_assoc, List.append_assoc, List.append_assoc, hword,
      List.isPrefixOf_iff_prefix.2 (List.prefix_append _ _), Bool.and_self, if_pos rfl, List.drop_left]
    rcases hparenthesis with rfl | rfl
    · -- without a parenthesis the two runs of white space are one
      have hall : ∀ b ∈ blanks ++ more, isBlank b = true := fun b hb =>
        (List.mem_append.1 hb).elim (hblanks b) (hmore b)
      rw [List.nil_append, ← List.append_assoc, dropWhile_append_cons hall hblank]
      unfold afterParenthesis
      split
      · rename_i heq
        exact absurd (List.cons.inj heq).1 hquote.ne_parenthesis
      · rfl
    · rw [List.singleton_append, dropWhile_append_cons hblanks (by decide)]
      exact congrArg some (dropWhile_append_cons hmore hblank rest)
  | @mark blanks hblanks =>
    unfold afterOpening?
    rw [List.append_assoc, not_load_mark, Bool.false_and, if_neg Bool.false_ne_true,
      if_pos (List.isPrefixOf_iff_prefix.2 (List.prefix_append _ _)), List.drop_left,
      dropWhile_append_cons hblanks hblank]

/-! ## Quoted names -/

/-- **A quoted name is read iff it stands there**, up to the next character that no name contains. -/
theorem quotedName?_eq_some_iff :
    quotedName? text = some (name, after) ↔
      ∃ quote, IsQuote quote ∧ IsName name ∧ text = quote :: name ++ quote :: after := by
  constructor
  · intro h
    unfold quotedName? at h
    split at h
    · rename_i quote first rest
      split at h
      · rename_i hfirst
        rw [Bool.and_eq_true, isQuote_iff] at hfirst
        split at h
        · rename_i closing tail hclosing
          split at h
          · rename_i heq
            obtain ⟨rfl, rfl⟩ := Prod.mk.inj (Option.some.inj h)
            obtain rfl : closing = quote := eq_of_beq heq
            have hrest : rest = rest.takeWhile isNameChar ++ closing :: tail := by
              rw [← hclosing, List.takeWhile_append_dropWhile]
            refine ⟨closing, hfirst.1, ⟨first, _, rfl, hfirst.2,
              fun _ hc => List.all_eq_true.1 List.all_takeWhile _ hc⟩, ?_⟩
            rw [List.cons_append, List.cons_append, ← hrest]
          · cases h
        · cases h
      · cases h
    · cases h
  · rintro ⟨quote, hquote, ⟨first, rest, rfl, hfirst, hrest⟩, rfl⟩
    have hstop := hquote.not_nameChar
    simp only [List.cons_append, quotedName?, isQuote_iff.2 hquote, hfirst, Bool.and_self, if_true,
      dropWhile_append_cons hrest hstop, takeWhile_append_cons hrest hstop, BEq.rfl]

/-! ## References -/

theorem Refers.length_pos (h : Refers before reference name) : 0 < reference.length := by
  obtain ⟨opening, quote, -, -, -, rfl⟩ := h
  rw [List.length_append, List.length_singleton]
  exact Nat.succ_pos _

/-- **A reference is read at the beginning of a text iff one stands there.** -/
theorem occurrence?_eq_some_iff {found : Occurrence} :
    occurrence? before text = some found ↔
      ∃ reference after, text = reference ++ after ∧ found.length = reference.length ∧
        Refers before reference found.name := by
  constructor
  · intro h
    obtain ⟨rest, hrest, h⟩ := Option.bind_eq_some_iff.1 h
    obtain ⟨⟨name, after⟩, hname, h⟩ := Option.bind_eq_some_iff.1 h
    obtain rfl := Option.some.inj h
    obtain ⟨opening, hopening, rfl⟩ := opening_of_afterOpening? hrest
    obtain ⟨quote, hquote, hisname, rfl⟩ := quotedName?_eq_some_iff.1 hname
    refine ⟨opening ++ quote :: name ++ [quote], after, by simp, ?_,
      opening, quote, hopening, hquote, hisname, rfl⟩
    simp only [List.length_append, List.length_cons, List.length_nil]
    omega
  · rintro ⟨reference, after, rfl, hlength, opening, quote, hopening, hquote, hname, rfl⟩
    have htext : opening ++ quote :: found.name ++ [quote] ++ after =
        opening ++ quote :: (found.name ++ quote :: after) := by simp
    have hquoted : quotedName? (quote :: (found.name ++ quote :: after)) = some (found.name, after) :=
      quotedName?_eq_some_iff.2 ⟨quote, hquote, hname, rfl⟩
    unfold occurrence?
    rw [htext, afterOpening?_append hopening hquote]
    simp only [Option.bind_eq_bind, Option.bind_some, hquoted]
    cases found
    simp only [List.length_append, List.length_cons, List.length_nil] at hlength ⊢
    exact congrArg some (congrArg _ (by omega))

/-- References that begin at one position of a text are those that are read there. -/
theorem occursAt_iff (front rest : List Char) :
    OccursAt (front ++ rest) front.length stop name ↔
      ∃ length, occurrence? front.getLast? rest = some ⟨name, length⟩ ∧ stop = front.length + length := by
  constructor
  · rintro ⟨front', reference, after, htext, hstart, hstop, hrefers⟩
    rw [List.append_assoc] at htext
    obtain ⟨rfl, rfl⟩ := List.append_inj htext hstart
    exact ⟨reference.length, occurrence?_eq_some_iff.2 ⟨reference, after, rfl, rfl, hrefers⟩, hstop⟩
  · rintro ⟨length, hfound, rfl⟩
    obtain ⟨reference, after, rfl, hlength, hrefers⟩ := occurrence?_eq_some_iff.1 hfound
    obtain rfl : length = reference.length := hlength
    exact ⟨front, reference, after, (List.append_assoc _ _ _).symm, rfl, rfl, hrefers⟩

theorem OccursAt.start_lt (h : OccursAt text start stop name) : start < stop ∧ start < text.length := by
  obtain ⟨front, reference, after, rfl, rfl, rfl, hrefers⟩ := h
  have hpos := hrefers.length_pos
  simp only [List.length_append]
  omega

/-- **At one position there is one way to read a reference.** -/
theorem OccursAt.unique (h : OccursAt text start stop name) (h' : OccursAt text start stop' name') :
    stop = stop' ∧ name = name' := by
  obtain ⟨front, reference, after, rfl, rfl, -, -⟩ := id h
  rw [List.append_assoc] at h h'
  obtain ⟨length, hfound, rfl⟩ := (occursAt_iff front _).1 h
  obtain ⟨length', hfound', rfl⟩ := (occursAt_iff front _).1 h'
  obtain ⟨rfl, rfl⟩ := Occurrence.mk.inj (Option.some.inj (hfound.symm.trans hfound'))
  exact ⟨rfl, rfl⟩

/-! ## Selections -/

/-- A position where no reference begins can be passed. -/
theorem Selects.of_succ (h : Selects text (position + 1) selected)
    (hnone : ∀ stop name, ¬ OccursAt text position stop name) : Selects text position selected := by
  have hhere : ∀ start stop name, position ≤ start →
      (position + 1 ≤ start → ¬ OccursAt text start stop name) →
      ¬ OccursAt text start stop name := by
    intro start stop name hle hlater
    rcases Nat.eq_or_lt_of_le hle with rfl | hlt
    · exact hnone stop name
    · exact hlater hlt
  cases h with
  | done hlater => exact .done fun start stop name hle => hhere start stop name hle (hlater start stop name)
  | next hstart hoccurs hleftmost hrest =>
    refine .next (by omega) hoccurs (fun earlier stop name hle hlt => ?_) hrest
    exact hhere earlier stop name hle fun hlater => hleftmost earlier stop name hlater hlt

/-- **The reader selects.**  Induction on what is left of the text; the characters that belong to a reference
already taken are passed one by one. -/
theorem selects_namesFrom (rest front : List Char) (skip : Nat) :
    Selects (front ++ rest) (front.length + skip) (namesFrom front.getLast? skip rest) := by
  induction rest generalizing front skip with
  | nil =>
    rw [namesFrom]
    refine .done fun start stop name hle hoccurs => ?_
    have hlt := hoccurs.start_lt.2
    rw [List.append_nil] at hlt
    omega
  | cons c rest ih =>
    have hnext := ih (front ++ [c])
    rw [List.append_assoc, List.singleton_append, List.length_append, List.length_singleton,
      List.getLast?_concat] at hnext
    cases skip with
    | succ skip =>
      rw [namesFrom, show front.length + (skip + 1) = front.length + 1 + skip by omega]
      exact hnext skip
    | zero =>
      rw [namesFrom]
      cases hfound : occurrence? front.getLast? (c :: rest) with
      | none =>
        refine (hnext 0).of_succ fun stop name hoccurs => ?_
        obtain ⟨length, hsome, -⟩ := (occursAt_iff front _).1 hoccurs
        rw [hfound] at hsome
        cases hsome
      | some found =>
        have hoccurs : OccursAt (front ++ c :: rest) front.length (front.length + found.length) found.name :=
          (occursAt_iff front _).2 ⟨found.length, hfound, rfl⟩
        have hpos := hoccurs.start_lt.1
        refine .next (Nat.le_refl _) hoccurs (fun earlier _ _ hle hlt => absurd hlt (by omega)) ?_
        rw [show front.length + found.length = front.length + 1 + (found.length - 1) by omega]
        exact hnext (found.length - 1)

/-- **From one position on, one list of names is selected.** -/
theorem Selects.unique (h : Selects text position selected) (h' : Selects text position others) :
    selected = others := by
  induction h generalizing others with
  | done hnone =>
    cases h' with
    | done => rfl
    | next hstart hoccurs => exact absurd hoccurs (hnone _ _ _ hstart)
  | @next position start stop name names hstart hoccurs hleftmost _ ih =>
    cases h' with
    | done hnone => exact absurd hoccurs (hnone _ _ _ hstart)
    | @next _ start' stop' name' names' hstart' hoccurs' hleftmost' hrest' =>
      obtain rfl : start = start' := by
        rcases Nat.lt_trichotomy start start' with hlt | heq | hlt
        · exact absurd hoccurs (hleftmost' _ _ _ hstart hlt)
        · exact heq
        · exact absurd hoccurs' (hleftmost _ _ _ hstart' hlt)
      obtain ⟨rfl, rfl⟩ := hoccurs.unique hoccurs'
      rw [ih hrest']

/-- **The names of a line are those its references select.**  A reference is an opening, a quote, a name and
the same quote; taken is the leftmost one, then the leftmost one that begins at its end or later, and so on.
The reader gives the names that are taken, in this order, and no others; at one position a reference ends in
one way and has one name. -/
theorem selects_iff_names (line : String) :
    (∀ selected, Selects line.toList 0 selected ↔ names line = selected.map String.ofList) ∧
    ∀ start stop stop' name name', OccursAt line.toList start stop name →
      OccursAt line.toList start stop' name' → stop = stop' ∧ name = name' := by
  have hselects : Selects line.toList 0 (namesFrom none 0 line.toList) :=
    selects_namesFrom line.toList [] 0
  refine ⟨fun selected => ⟨fun h => ?_, fun h => ?_⟩, fun _ _ _ _ _ h h' => h.unique h'⟩
  · rw [hselects.unique h |>.symm]
    rfl
  · rw [← (List.map_inj_right fun _ _ => String.ofList_inj.1).1 h]
    exact hselects

/-- A name that is itself the load word before a quote is read once: what is taken does not overlap. -/
theorem selects_iff_names_overlapping :
    Selects "require(\"require\") 'm'".toList 0 ["require".toList] :=
  ((selects_iff_names "require(\"require\") 'm'").1 _).2 (by decide)

end LibraryPaths.Reference
