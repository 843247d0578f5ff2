import LibraryPaths.Proofs.Json.Grammar

/-!
# Strings that are read and skipped

A reader gives what follows the part that it read together with a proof that this is shorter; `leaves` and
`gives` drop the proof, so that results for different texts can be compared.

* `spells_cons_iff`, `spells_pair_iff`: what the first pieces of a string spell;
* `leaves_skipString`: every string is skipped;
* `readAsSpelled`: a string is read iff it spells a text, and then as that text.
-/

set_option autoImplicit false

namespace LibraryPaths.Json

variable {c d : Char} {m n : Nat} {piece : Piece} {pieces : List Piece} {text rest after : List Char}

/-! ## Results without their proofs -/

section

variable {α : Type} {p : List Char → Prop} {inner : List Char}

/-- What a reader leaves of a text. -/
def leaves (result : Except Stop (Subtype p)) : Except Stop (List Char) := result.map Subtype.val

/-- What a reader makes of a text, and what it leaves of it. -/
def gives (result : Except Stop (α × Subtype p)) : Except Stop (α × List Char) :=
  result.map fun (value, rest) => (value, rest.1)

@[simp] theorem gives_ok (value : α) (rest : Subtype p) : gives (.ok (value, rest)) = .ok (value, rest.1) := rfl

@[simp] theorem gives_error (stop : Stop) :
    gives (.error stop : Except Stop (α × Subtype p)) = .error stop := rfl

theorem leaves_eq_ok {result : Except Stop (Subtype p)} (h : leaves result = .ok rest) :
    ∃ hrest, result = .ok ⟨rest, hrest⟩ := by
  cases result with
  | error => cases h
  | ok found =>
    obtain rfl : found.1 = rest := Except.ok.inj h
    exact ⟨found.2, rfl⟩

theorem gives_eq_ok {result : Except Stop (α × Subtype p)} {value : α} (h : gives result = .ok (value, rest)) :
    ∃ hrest, result = .ok (value, ⟨rest, hrest⟩) := by
  cases result with
  | error => cases h
  | ok found =>
    obtain ⟨rfl, rfl⟩ := Prod.mk.inj (Except.ok.inj h)
    exact ⟨found.2.2, rfl⟩

end

/-! ## Units of 16 bits -/

theorem toNat_ofNat (h : n.isValidChar) : (Char.ofNat n).toNat = n := by
  unfold Char.ofNat
  rw [dif_pos h]
  rfl

/-- A character is a unit that is no half of a pair, or a pair. -/
theorem utf16_cases (c : Char) :
    (utf16 c = [c.toNat] ∧ isLeading c.toNat = false ∧ isTrailing c.toNat = false) ∨
      ∃ m n, utf16 c = [m, n] ∧ isLeading m = true ∧ isTrailing n = true ∧
        c.toNat = 0x10000 + (m - 0xD800) * 0x400 + (n - 0xDC00) := by
  have hvalid : c.toNat < 0xD800 ∨ 0xDFFF < c.toNat ∧ c.toNat < 0x110000 := c.valid
  generalize hn : c.toNat = n at hvalid
  unfold isLeading isTrailing utf16
  rw [hn]
  by_cases hsmall : n < 0x10000
  · rw [if_pos hsmall]
    exact .inl ⟨rfl, decide_eq_false (by omega), decide_eq_false (by omega)⟩
  · rw [if_neg hsmall]
    exact .inr ⟨_, _, rfl, decide_eq_true (by omega), decide_eq_true (by omega), by omega⟩

theorem utf16_ofNat (hn : n < 0x10000) (hleading : isLeading n = false) (htrailing : isTrailing n = false) :
    utf16 (Char.ofNat n) = [n] := by
  simp only [isLeading, isTrailing, decide_eq_false_iff_not] at hleading htrailing
  unfold utf16
  rw [toNat_ofNat (by unfold Nat.isValidChar; omega), if_pos hn]

theorem utf16_ofNat_pair (hleading : isLeading m = true) (htrailing : isTrailing n = true) :
    utf16 (Char.ofNat (0x10000 + (m - 0xD800) * 0x400 + (n - 0xDC00))) = [m, n] := by
  simp only [isLeading, isTrailing, decide_eq_true_eq] at hleading htrailing
  unfold utf16
  rw [toNat_ofNat (by unfold Nat.isValidChar; omega), if_neg (by omega)]
  simp only [List.cons.injEq, and_true]
  omega

theorem not_isTrailing_of_isLeading (h : isLeading n = true) : isTrailing n = false := by
  simp only [isLeading, isTrailing, decide_eq_true_eq, decide_eq_false_iff_not] at h ⊢
  omega

/-- No character is the beginning of another one. -/
theorem utf16_append_inj {us vs : List Nat} (h : utf16 c ++ us = utf16 d ++ vs) : c = d ∧ us = vs := by
  rcases utf16_cases c with ⟨hc, hcl, -⟩ | ⟨m, n, hc, hm, -, hcn⟩ <;>
    rcases utf16_cases d with ⟨hd, hdl, -⟩ | ⟨m', n', hd, hm', -, hdn⟩ <;> rw [hc, hd] at h
  · obtain ⟨hcd, rfl⟩ := List.cons.inj h
    exact ⟨Char.toNat_inj.1 hcd, rfl⟩
  · rw [(List.cons.inj h).1, hm'] at hcl
    cases hcl
  · rw [← (List.cons.inj h).1, hm] at hdl
    cases hdl
  · obtain ⟨rfl, htail⟩ := List.cons.inj h
    obtain ⟨rfl, rfl⟩ := List.cons.inj htail
    exact ⟨Char.toNat_inj.1 (hcn.trans hdn.symm), rfl⟩

theorem append_eq_flatMap_iff {us : List Nat} :
    utf16 c ++ us = text.flatMap utf16 ↔ ∃ others, text = c :: others ∧ us = others.flatMap utf16 := by
  constructor
  · intro h
    cases text with
    | nil => rcases utf16_cases c with ⟨hc, -⟩ | ⟨m, n, hc, -⟩ <;> simp [hc] at h
    | cons d others =>
      obtain ⟨rfl, rfl⟩ := utf16_append_inj (h.trans List.flatMap_cons)
      exact ⟨others, rfl, rfl⟩
  · rintro ⟨others, rfl, rfl⟩
    exact List.flatMap_cons.symm

/-! ## What the first pieces spell -/

theorem spells_nil_iff : Spells [] text ↔ text = [] := by
  unfold Spells
  cases text with
  | nil => simp
  | cons c text => rcases utf16_cases c with ⟨hc, -⟩ | ⟨m, n, hc, -⟩ <;> simp [hc]

/-- A piece that stands for a character spells it. -/
theorem spells_cons_iff (hpiece : piece.units = utf16 c) :
    Spells (piece :: pieces) text ↔ ∃ others, text = c :: others ∧ Spells pieces others := by
  unfold Spells
  rw [List.flatMap_cons, hpiece, append_eq_flatMap_iff]

/-- Two pieces that stand for the halves of a pair spell a character together. -/
theorem spells_pair_iff {second : Piece} (hpieces : piece.units ++ second.units = utf16 c) :
    Spells (piece :: second :: pieces) text ↔ ∃ others, text = c :: others ∧ Spells pieces others := by
  unfold Spells
  rw [List.flatMap_cons, List.flatMap_cons, ← List.append_assoc, hpieces, append_eq_flatMap_iff]

/-- Nothing is spelled that begins with the second half of a pair. -/
theorem not_spells_of_isTrailing (hpiece : piece.units = [n]) (hn : isTrailing n = true) :
    ¬ Spells (piece :: pieces) text := by
  unfold Spells
  rw [List.flatMap_cons, hpiece]
  intro h
  cases text with
  | nil => cases h
  | cons c text =>
    rw [List.flatMap_cons] at h
    rcases utf16_cases c with ⟨hc, -, htrailing⟩ | ⟨m, _, hc, hm, -⟩ <;> rw [hc] at h
    · rw [← (List.cons.inj h).1, hn] at htrailing
      cases htrailing
    · obtain rfl := (List.cons.inj h).1
      rw [not_isTrailing_of_isLeading hm] at hn
      cases hn

/-- The first half of a pair is spelled only before a second half. -/
theorem exists_of_spells_of_isLeading (hpiece : piece.units = [n]) (hn : isLeading n = true)
    (h : Spells (piece :: pieces) text) :
    ∃ m units, pieces.flatMap Piece.units = m :: units ∧ isTrailing m = true := by
  unfold Spells at h
  rw [List.flatMap_cons, hpiece] at h
  cases text with
  | nil => cases h
  | cons c text =>
    rw [List.flatMap_cons] at h
    rcases utf16_cases c with ⟨hc, hleading, -⟩ | ⟨_, m, hc, -, hm, -⟩ <;> rw [hc] at h
    · rw [← (List.cons.inj h).1, hn] at hleading
      cases hleading
    · exact ⟨m, _, (List.cons.inj h).2, hm⟩

/-! ## Skipping -/

theorem inQuotes_append (pieces : List Piece) (rest : List Char) :
    inQuotes pieces ++ rest = '"' :: (written pieces ++ '"' :: rest) := by
  simp [inQuotes]

theorem leaves_skipWord (word rest : List Char) : leaves (skipWord word (word ++ rest)) = .ok rest := by
  induction word with
  | nil => rw [List.nil_append, skipWord]; rfl
  | cons c word ih =>
    obtain ⟨_, hword⟩ := leaves_eq_ok ih
    rw [List.cons_append, skipWord, if_pos rfl, hword]
    rfl

/-- What follows an escape that is skipped. -/
theorem leaves_skipEscape_short {letter : Char} (hc : shortEscape? letter = some c) :
    leaves (skipEscape (letter :: rest)) = .ok rest := by
  have hne : letter ≠ 'u' := by
    rintro rfl
    cases hc
  rw [skipEscape, if_neg hne, hc]
  rfl

theorem gives_readHex {a b c d : Char} (hn : hexNumber? a b c d = some n) (rest : List Char) :
    gives (readHex (a :: b :: c :: d :: rest)) = .ok (n, rest) := by
  unfold readHex
  simp only [hn]
  rfl

theorem leaves_skipEscape_code {a b c d : Char} (hn : hexNumber? a b c d = some n) :
    leaves (skipEscape ('u' :: a :: b :: c :: d :: rest)) = .ok rest := by
  obtain ⟨_, hread⟩ := gives_eq_ok (gives_readHex hn rest)
  rw [skipEscape, if_pos rfl, hread]
  rfl

theorem leaves_skipString_escape (h : leaves (skipEscape text) = .ok after) :
    leaves (skipString ('\\' :: text)) = leaves (skipString after) := by
  obtain ⟨_, hskip⟩ := leaves_eq_ok h
  rw [skipString, if_neg (by decide), if_pos rfl, hskip]
  simp only
  cases skipString after <;> rfl

theorem leaves_skipString_piece (piece : Piece) (rest : List Char) :
    leaves (skipString (piece.text ++ rest)) = leaves (skipString rest) := by
  cases piece with
  | plain c hc =>
    rw [Piece.text, List.singleton_append, skipString, if_neg hc.1, if_neg hc.2.1, if_neg (by omega)]
    cases skipString rest <;> rfl
  | short letter c hc => exact leaves_skipString_escape (leaves_skipEscape_short hc)
  | code _ _ _ _ n hn => exact leaves_skipString_escape (leaves_skipEscape_code hn)

/-- **Every string is skipped.** -/
theorem leaves_skipString (pieces : List Piece) (rest : List Char) :
    leaves (skipString (written pieces ++ '"' :: rest)) = .ok rest := by
  induction pieces with
  | nil =>
    rw [written, List.flatMap_nil, List.nil_append, skipString, if_pos rfl]
    rfl
  | cons piece pieces ih =>
    rw [written, List.flatMap_cons, List.append_assoc, leaves_skipString_piece]
    exact ih

/-! ## Reading -/

theorem gives_readString_escape (h : gives (readEscape text) = .ok (d, after)) :
    gives (readString ('\\' :: text)) =
      (gives (readString after)).map fun (others, rest) => (d :: others, rest) := by
  obtain ⟨_, hread⟩ := gives_eq_ok h
  rw [readString, if_neg (by decide), if_pos rfl, hread]
  simp only
  cases readString after <;> rfl

theorem readString_escape_error {stop : Stop} (h : readEscape text = .error stop) :
    readString ('\\' :: text) = .error stop := by
  rw [readString, if_neg (by decide), if_pos rfl, h]

theorem gives_readEscape_short {letter : Char} (hc : shortEscape? letter = some c) :
    gives (readEscape (letter :: rest)) = .ok (c, rest) := by
  have hne : letter ≠ 'u' := by
    rintro rfl
    cases hc
  rw [readEscape, if_neg hne]
  simp only [hc]
  rfl

theorem gives_readEscape_code (text : List Char) :
    gives (readEscape ('u' :: text)) = gives (readCodePoint text) := by
  rw [readEscape, if_pos rfl]
  cases readCodePoint text <;> rfl

theorem hexValue?_lt {c : Char} (h : hexValue? c = some n) : n < 16 := by
  unfold hexValue? at h
  simp only [Char.le_def, UInt32.le_iff_toNat_le, Char.toNat_val] at h
  grind

theorem hexNumber?_lt {a b c d : Char} (hn : hexNumber? a b c d = some n) : n < 0x10000 := by
  obtain ⟨x, hx, hn⟩ := Option.bind_eq_some_iff.1 hn
  obtain ⟨y, hy, hn⟩ := Option.bind_eq_some_iff.1 hn
  obtain ⟨z, hz, hn⟩ := Option.bind_eq_some_iff.1 hn
  obtain ⟨w, hw, hn⟩ := Option.bind_eq_some_iff.1 hn
  have hn := Option.some.inj hn
  have := hexValue?_lt hx
  have := hexValue?_lt hy
  have := hexValue?_lt hz
  have := hexValue?_lt hw
  omega

section

variable {a b a' b' c' d' : Char}

/-- Four digits that are no half of a pair stand for a character. -/
theorem gives_readCodePoint (hn : hexNumber? a b c d = some n) (hleading : isLeading n = false)
    (htrailing : isTrailing n = false) :
    gives (readCodePoint (a :: b :: c :: d :: rest)) = .ok (Char.ofNat n, rest) := by
  obtain ⟨_, hread⟩ := gives_eq_ok (gives_readHex hn rest)
  unfold readCodePoint
  simp only [hread, htrailing, hleading, Bool.false_eq_true, if_false]
  rfl

/-- A second half of a pair is refused where it comes first. -/
theorem readCodePoint_of_isTrailing (hn : hexNumber? a b c d = some n) (htrailing : isTrailing n = true)
    (rest : List Char) :
    ∃ stop, readCodePoint (a :: b :: c :: d :: rest) = .error stop := by
  obtain ⟨_, hread⟩ := gives_eq_ok (gives_readHex hn rest)
  unfold readCodePoint
  simp only [hread, htrailing, if_true]
  exact ⟨_, rfl⟩

/-- The halves of a pair stand for a character together. -/
theorem gives_readCodePoint_pair (hm : hexNumber? a b c d = some m) (hn : hexNumber? a' b' c' d' = some n)
    (hleading : isLeading m = true) (htrailing : isTrailing n = true) :
    gives (readCodePoint (a :: b :: c :: d :: '\\' :: 'u' :: a' :: b' :: c' :: d' :: rest)) =
      .ok (Char.ofNat (0x10000 + (m - 0xD800) * 0x400 + (n - 0xDC00)), rest) := by
  obtain ⟨_, hfirst⟩ :=
    gives_eq_ok (gives_readHex hm ('\\' :: 'u' :: a' :: b' :: c' :: d' :: rest))
  obtain ⟨_, hsecond⟩ := gives_eq_ok (gives_readHex hn rest)
  unfold readCodePoint
  simp only [hfirst, not_isTrailing_of_isLeading hleading, hleading, Bool.false_eq_true, if_false, if_true]
  unfold readTrailing
  simp only [hsecond, htrailing, if_true]
  rfl

theorem readTrailing_of_ne (hc : c ≠ '\\') :
    readTrailing m (c :: text) = .error (.before .unfinishedSurrogate (c :: text)) := by
  simp [readTrailing, hc]

theorem readTrailing_escape (hc : c ≠ 'u') :
    readTrailing m ('\\' :: c :: text) = .error (.before .unfinishedSurrogate (c :: text)) := by
  simp [readTrailing, hc]

/-- What follows a first half of a pair and is no second half is refused. -/
theorem readTrailing_error (m : Nat) (rest : List Char)
    (halone : ∀ n units, pieces.flatMap Piece.units = n :: units → isTrailing n = false) :
    ∃ stop, readTrailing m (written pieces ++ '"' :: rest) = .error stop := by
  cases pieces with
  | nil => exact ⟨_, readTrailing_of_ne (by decide)⟩
  | cons piece pieces =>
    rw [written, List.flatMap_cons, List.append_assoc]
    cases piece with
    | plain c hc => exact ⟨_, readTrailing_of_ne hc.2.1⟩
    | short letter c hc =>
      have hne : letter ≠ 'u' := by
        rintro rfl
        cases hc
      exact ⟨_, readTrailing_escape hne⟩
    | code _ _ _ _ n hn =>
      obtain ⟨_, hread⟩ := gives_eq_ok
        (gives_readHex hn (pieces.flatMap Piece.text ++ '"' :: rest))
      have hfalse : isTrailing n = false := halone n _ List.flatMap_cons
      simp only [Piece.text, List.cons_append, List.nil_append]
      unfold readTrailing
      simp only [hread, hfalse, Bool.false_eq_true, if_false]
      exact ⟨_, rfl⟩

/-- A first half of a pair is refused where no second half follows. -/
theorem readCodePoint_of_isLeading (hm : hexNumber? a b c d = some m) (hleading : isLeading m = true)
    (halone : ∀ n units, pieces.flatMap Piece.units = n :: units → isTrailing n = false) (rest : List Char) :
    ∃ stop, readCodePoint (a :: b :: c :: d :: (written pieces ++ '"' :: rest)) = .error stop := by
  obtain ⟨_, hread⟩ := gives_eq_ok (gives_readHex hm (written pieces ++ '"' :: rest))
  obtain ⟨stop, htrailing⟩ := readTrailing_error m rest halone
  unfold readCodePoint
  simp only [hread, not_isTrailing_of_isLeading hleading, hleading, Bool.false_eq_true, if_false, if_true,
    htrailing]
  exact ⟨_, rfl⟩

end

/-- The pieces of a string, up to its closing quote, are read as the text that they spell. -/
def ReadAsSpelled (rest : List Char) (pieces : List Piece) : Prop :=
  ∀ text after, gives (readString (written pieces ++ '"' :: rest)) = .ok (text, after) ↔
    Spells pieces text ∧ after = rest

/-- Pieces that are read as one character, and spell it, may stand in front. -/
theorem ReadAsSpelled.cons {others : List Piece} (hothers : ReadAsSpelled rest others)
    (hread : gives (readString (written pieces ++ '"' :: rest)) =
      (gives (readString (written others ++ '"' :: rest))).map fun (text, after) => (c :: text, after))
    (hspells : ∀ text, Spells pieces text ↔ ∃ tail, text = c :: tail ∧ Spells others tail) :
    ReadAsSpelled rest pieces := by
  intro text after
  rw [hread, hspells]
  constructor
  · intro h
    cases hresult : gives (readString (written others ++ '"' :: rest)) with
    | error => rw [hresult] at h; cases h
    | ok found =>
      rw [hresult] at h
      obtain ⟨rfl, rfl⟩ := Prod.mk.inj (Except.ok.inj h)
      obtain ⟨htail, hafter⟩ := (hothers _ _).1 hresult
      exact ⟨⟨_, rfl, htail⟩, hafter⟩
  · rintro ⟨⟨tail, rfl, htail⟩, hafter⟩
    rw [(hothers tail after).2 ⟨htail, hafter⟩]
    rfl

/-- Pieces that are refused, and spell nothing. -/
theorem ReadAsSpelled.of_error {stop : Stop} (hread : readString (written pieces ++ '"' :: rest) = .error stop)
    (hspells : ∀ text, ¬ Spells pieces text) : ReadAsSpelled rest pieces := by
  intro text after
  rw [hread]
  exact iff_of_false (by simp) fun h => hspells text h.1

/-- Only four digits stand for a second half of a pair alone. -/
theorem exists_code_of_isTrailing {units : List Nat} (h : pieces.flatMap Piece.units = n :: units)
    (hn : isTrailing n = true) :
    ∃ a b c d, ∃ (hcode : hexNumber? a b c d = some n) (others : List Piece),
      pieces = .code a b c d n hcode :: others := by
  have hplain : ∀ (c : Char) (units' : List Nat), utf16 c ++ units' ≠ n :: units := by
    intro c units' heq
    rcases utf16_cases c with ⟨hc, -, hfalse⟩ | ⟨m, _, hc, hm, -⟩ <;> rw [hc] at heq
    · rw [(List.cons.inj heq).1, hn] at hfalse
      cases hfalse
    · rw [← (List.cons.inj heq).1, not_isTrailing_of_isLeading hm] at hn
      cases hn
  cases pieces with
  | nil => cases h
  | cons piece others =>
    rw [List.flatMap_cons] at h
    cases piece with
    | plain c hc => exact absurd h (hplain c _)
    | short letter c hc => exact absurd h (hplain c _)
    | code a b c d m hcode =>
      obtain rfl := (List.cons.inj h).1
      exact ⟨a, b, c, d, hcode, others, rfl⟩

theorem readString_code_error {stop : Stop} (h : readCodePoint text = .error stop) :
    readString ('\\' :: 'u' :: text) = .error stop := by
  refine readString_escape_error ?_
  rw [readEscape, if_pos rfl, h]

/-- **A string is read iff it spells a text**, and then as that text.  Induction on the number of pieces; two of
them are taken at once where they are the halves of a pair. -/
theorem readAsSpelled (rest : List Char) : ∀ pieces, ReadAsSpelled rest pieces
  | [] => by
    intro text after
    rw [written, List.flatMap_nil, List.nil_append, readString, if_pos rfl, spells_nil_iff]
    simp [eq_comm]
  | .plain c hc :: pieces => by
    refine (readAsSpelled rest pieces).cons ?_ fun text => spells_cons_iff (c := c) rfl
    rw [written, List.flatMap_cons, Piece.text, List.singleton_append, List.cons_append, readString,
      if_neg hc.1, if_neg hc.2.1, if_neg (by omega)]
    unfold written
    cases readString (pieces.flatMap Piece.text ++ '"' :: rest) <;> rfl
  | .short letter c hc :: pieces =>
    (readAsSpelled rest pieces).cons (gives_readString_escape (gives_readEscape_short hc))
      fun text => spells_cons_iff rfl
  | .code a b c d n hn :: pieces => by
    cases htrailing : isTrailing n with
    | true =>
      obtain ⟨_, herror⟩ := readCodePoint_of_isTrailing hn htrailing (written pieces ++ '"' :: rest)
      exact .of_error (readString_code_error herror) fun text => not_spells_of_isTrailing rfl htrailing
    | false =>
      cases hleading : isLeading n with
      | false =>
        refine (readAsSpelled rest pieces).cons (c := Char.ofNat n) ?_ fun text => spells_cons_iff ?_
        · exact gives_readString_escape
            ((gives_readEscape_code _).trans (gives_readCodePoint hn hleading htrailing))
        · exact (utf16_ofNat (hexNumber?_lt hn) hleading htrailing).symm
      | true =>
        by_cases hpair : ∃ m units, pieces.flatMap Piece.units = m :: units ∧ isTrailing m = true
        · obtain ⟨m, units, hunits, hm⟩ := hpair
          obtain ⟨a', b', c', d', hcode, others, rfl⟩ := exists_code_of_isTrailing hunits hm
          refine (readAsSpelled rest others).cons
            (c := Char.ofNat (0x10000 + (n - 0xD800) * 0x400 + (m - 0xDC00))) ?_ fun text => spells_pair_iff ?_
          · exact gives_readString_escape
              ((gives_readEscape_code _).trans (gives_readCodePoint_pair hn hcode hleading hm))
          · exact (utf16_ofNat_pair hleading hm).symm
        · have halone : ∀ m units, pieces.flatMap Piece.units = m :: units → isTrailing m = false :=
            fun m units hunits => Bool.eq_false_iff.2 fun hm => hpair ⟨m, units, hunits, hm⟩
          obtain ⟨_, herror⟩ := readCodePoint_of_isLeading hn hleading halone rest
          exact .of_error (readString_code_error herror) fun text hspells =>
            hpair (exists_of_spells_of_isLeading rfl hleading hspells)
termination_by pieces => pieces.length

theorem gives_readString (h : Spells pieces text) (rest : List Char) :
    gives (readString (written pieces ++ '"' :: rest)) = .ok (text, rest) :=
  (readAsSpelled rest pieces text rest).2 ⟨h, rfl⟩

/-- A string spells one text. -/
theorem Spells.unique {other : List Char} (h : Spells pieces text) (h' : Spells pieces other) : text = other := by
  have hread := (gives_readString h []).symm.trans (gives_readString h' [])
  exact (Prod.mk.inj (Except.ok.inj hread)).1

/-- A string that spells no text is refused. -/
theorem exists_readString_error (h : ∀ text, ¬ Spells pieces text) (rest : List Char) :
    ∃ stop, readString (written pieces ++ '"' :: rest) = .error stop := by
  cases hread : readString (written pieces ++ '"' :: rest) with
  | error stop => exact ⟨stop, rfl⟩
  | ok found =>
    have hgives := congrArg gives hread
    exact absurd ((readAsSpelled rest pieces _ _).1 hgives).1 (h _)

end LibraryPaths.Json
