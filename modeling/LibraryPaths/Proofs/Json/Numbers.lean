import LibraryPaths.Proofs.Json.Grammar

/-!
# Numbers that are read

A number is read as far as it goes: it ends before a character that could not belong to it (`EndsNumber`), which
is how every value of a list or an object ends.

* `readNumeral_whole`: digits without sign, point and exponent;
* `exists_readNumeral`: every number.
-/

set_option autoImplicit false

namespace LibraryPaths.Json

variable {c : Char} {text value rest : List Char} {atEnd : Fault}

/-! ## Where a number ends -/

/-- A text does not go on with a digit. -/
def NoDigit (rest : List Char) : Prop := ∀ c ∈ rest.head?, c.isDigit = false

/-- A text goes on neither with a digit nor with a point. -/
def EndsWhole (rest : List Char) : Prop := ∀ c ∈ rest.head?, c.isDigit = false ∧ c ≠ '.'

/-- A text does not go on with a character that could belong to a number before it. -/
def EndsNumber (rest : List Char) : Prop := ∀ c ∈ rest.head?, c.isDigit = false ∧ c ≠ '.' ∧ c ≠ 'e' ∧ c ≠ 'E'

theorem EndsNumber.endsWhole (h : EndsNumber rest) : EndsWhole rest := fun c hc => ⟨(h c hc).1, (h c hc).2.1⟩

theorem EndsWhole.noDigit (h : EndsWhole rest) : NoDigit rest := fun c hc => (h c hc).1

theorem endsNumber_nil : EndsNumber [] := fun _ hc => by cases hc

theorem endsNumber_blank_append (blank : Blank) (h : EndsNumber rest) : EndsNumber (blank.1 ++ rest) := by
  obtain ⟨blank, hblank⟩ := blank
  cases blank with
  | nil => exact h
  | cons c blank =>
    intro d hd
    obtain rfl : c = d := Option.some.inj hd
    have hc := hblank c List.mem_cons_self
    simp only [isJsonBlank, Bool.or_eq_true, beq_iff_eq] at hc
    rcases hc with ((rfl | rfl) | rfl) | rfl <;> decide

/-! ## How a number begins -/

theorem ne_of_startsNumber {d : Char} (hc : startsNumber c = true) (hd : startsNumber d = false) : c ≠ d := by
  rintro rfl
  rw [hc] at hd
  cases hd

theorem not_isJsonBlank_of_startsNumber (hc : startsNumber c = true) : isJsonBlank c = false := by
  cases h : isJsonBlank c with
  | false => rfl
  | true =>
    simp only [isJsonBlank, Bool.or_eq_true, beq_iff_eq] at h
    rcases h with ((rfl | rfl) | rfl) | rfl <;> cases hc

theorem startsNumber_of_isDigit (hc : c.isDigit = true) : startsNumber c = true := by
  unfold startsNumber
  rw [hc, Bool.or_true]

theorem Digits.exists_cons {digits : List Char} (h : Digits digits) :
    ∃ c others, digits = c :: others ∧ startsNumber c = true := by
  obtain ⟨hne, hall⟩ := h
  cases digits with
  | nil => exact absurd rfl hne
  | cons c digits => exact ⟨c, digits, rfl, startsNumber_of_isDigit (hall c List.mem_cons_self)⟩

/-- A number begins with a sign or a digit. -/
theorem IsNumber.exists_cons {number : List Char} (h : IsNumber number) :
    ∃ c others, number = c :: others ∧ startsNumber c = true := by
  obtain ⟨hsign, hwhole, -, -⟩ := h
  rcases hsign with rfl | rfl
  · obtain ⟨c, others, rfl, hc⟩ := hwhole.1.exists_cons
    exact ⟨c, _, rfl, hc⟩
  · exact ⟨'-', _, rfl, rfl⟩

/-! ## The parts of a number -/

theorem Digits.takeWhile_append {digits : List Char} (h : Digits digits) (hrest : NoDigit rest) :
    (digits ++ rest).takeWhile Char.isDigit = digits := by
  rw [List.takeWhile_append_of_pos h.2]
  cases rest with
  | nil => simp
  | cons c rest => rw [List.takeWhile_cons_of_neg (by simp [hrest c rfl]), List.append_nil]

theorem readDigits_append (atEnd : Fault) {digits : List Char} (h : Digits digits) (hrest : NoDigit rest) :
    readDigits atEnd (digits ++ rest) = .ok (digits, rest) := by
  unfold readDigits
  simp only [h.takeWhile_append hrest, if_neg h.1, List.drop_left]

theorem Digits.head_ne {digits : List Char} (h : Digits digits) (hc : c.isDigit = false) (rest : List Char) :
    ∀ d ∈ (digits ++ rest).head?, d ≠ c := by
  obtain ⟨hne, hall⟩ := h
  cases digits with
  | nil => exact absurd rfl hne
  | cons d digits =>
    rintro d' hd' rfl
    obtain rfl : d = d' := Option.some.inj hd'
    rw [hall d List.mem_cons_self] at hc
    cases hc

theorem readWhole_append (atEnd : Fault) {whole : List Char} (h : Whole whole) (hrest : NoDigit rest) :
    readWhole atEnd (whole ++ rest) = .ok (whole, rest) := by
  by_cases hzero : whole.head? = some '0'
  · obtain rfl := h.2 hzero
    cases rest with
    | nil => rfl
    | cons c rest =>
      rw [List.singleton_append]
      unfold readWhole
      simp only [hrest c rfl, Bool.false_eq_true, if_false]
  · cases whole with
    | nil => exact absurd rfl h.1.1
    | cons d digits =>
      unfold readWhole
      split
      · rename_i heq
        exact absurd (congrArg some (List.cons.inj heq).1) hzero
      · exact readDigits_append atEnd h.1 hrest

theorem endsWhole_of_exponent {exponent : List Char} (h : Exponent exponent) (hrest : EndsNumber rest) :
    EndsWhole (exponent ++ rest) := by
  cases h with
  | none => exact hrest.endsWhole
  | power hmark =>
    intro c hc
    cases hc
    rcases hmark with rfl | rfl <;> decide

theorem noDigit_of_fraction {fraction : List Char} (h : Fraction fraction) (hrest : EndsWhole rest) :
    NoDigit (fraction ++ rest) := by
  cases h with
  | none => exact hrest.noDigit
  | point => exact fun c hc => by cases hc; decide

theorem readFraction_of_endsWhole (h : EndsWhole rest) : readFraction atEnd rest = .ok (none, rest) := by
  unfold readFraction
  split
  · exact absurd rfl (h '.' rfl).2
  · rfl

theorem exists_readFraction (atEnd : Fault) {fraction : List Char} (h : Fraction fraction)
    (hrest : EndsWhole rest) :
    ∃ digits, readFraction atEnd (fraction ++ rest) = .ok (digits, rest) := by
  cases h with
  | none => exact ⟨none, readFraction_of_endsWhole hrest⟩
  | @point digits hdigits =>
    refine ⟨some digits, ?_⟩
    rw [List.cons_append, readFraction, readDigits_append atEnd hdigits hrest.noDigit]
    rfl

theorem readExponent_of_endsNumber (h : EndsNumber rest) : readExponent atEnd rest = .ok (none, rest) := by
  cases rest with
  | nil => rfl
  | cons c rest =>
    obtain ⟨-, -, hc⟩ := h c rfl
    unfold readExponent
    exact if_neg (by simpa using hc)

theorem exists_readExponent (atEnd : Fault) {exponent : List Char} (h : Exponent exponent)
    (hrest : EndsNumber rest) :
    ∃ power, readExponent atEnd (exponent ++ rest) = .ok (power, rest) := by
  cases h with
  | none => exact ⟨none, readExponent_of_endsNumber hrest⟩
  | @power mark sign digits hmark hsign hdigits =>
    have hread := readDigits_append atEnd hdigits hrest.endsWhole.noDigit
    rw [List.cons_append, List.append_assoc]
    unfold readExponent
    simp only [if_pos hmark]
    rcases hsign with rfl | rfl | rfl
    · -- the first digit is no sign
      rw [List.nil_append]
      split
      · rename_i heq
        exact absurd rfl (hdigits.head_ne (c := '+') rfl rest _ (by rw [heq]; rfl))
      · rename_i heq
        exact absurd rfl (hdigits.head_ne (c := '-') rfl rest _ (by rw [heq]; rfl))
      · rw [hread]
        exact ⟨_, rfl⟩
    · simp only [List.singleton_append, hread]
      exact ⟨_, rfl⟩
    · simp only [List.singleton_append, hread]
      exact ⟨_, rfl⟩

/-! ## Whole numbers -/

/-- A number is read part by part. -/
theorem readNumeral_of_parts {isNegative : Bool} {whole afterWhole afterFraction : List Char}
    {fraction : Option (List Char)} {exponent : Option (Bool × List Char)}
    (htext : text = value ∧ isNegative = false ∧ text.head? ≠ some '-' ∨ text = '-' :: value ∧ isNegative = true)
    (hwhole : readWhole atEnd value = .ok (whole, afterWhole))
    (hfraction : readFraction atEnd afterWhole = .ok (fraction, afterFraction))
    (hexponent : readExponent atEnd afterFraction = .ok (exponent, rest)) :
    readNumeral atEnd text = .ok (⟨isNegative, whole, fraction, exponent⟩, rest) := by
  unfold readNumeral
  rcases htext with ⟨rfl, rfl, hhead⟩ | ⟨rfl, rfl⟩
  · split
    rename_i heq
    split at heq
    · exact absurd rfl hhead
    · cases heq
      simp only [hwhole, hfraction, hexponent, bind, Except.bind]
  · simp only [hwhole, hfraction, hexponent, bind, Except.bind]

/-- The digits of a number without sign, point and exponent. -/
theorem readNumeral_whole (atEnd : Fault) {whole : List Char} (h : Whole whole) (hrest : EndsNumber rest) :
    readNumeral atEnd (whole ++ rest) = .ok (⟨false, whole, none, none⟩, rest) :=
  readNumeral_of_parts (.inl ⟨rfl, rfl, fun hhead => h.1.head_ne (c := '-') rfl rest _ hhead rfl⟩)
    (readWhole_append atEnd h hrest.endsWhole.noDigit) (readFraction_of_endsWhole hrest.endsWhole)
    (readExponent_of_endsNumber hrest)

/-- **Every number is read**, up to a character that could not belong to it. -/
theorem exists_readNumeral (atEnd : Fault) {number : List Char} (h : IsNumber number)
    (hrest : EndsNumber rest) :
    ∃ numeral, readNumeral atEnd (number ++ rest) = .ok (numeral, rest) := by
  obtain ⟨hsign, hwhole, hfraction, hexponent⟩ := h
  have hend := endsWhole_of_exponent hexponent hrest
  have hreadWhole := readWhole_append atEnd hwhole (noDigit_of_fraction hfraction hend)
  obtain ⟨_, hreadFraction⟩ := exists_readFraction atEnd hfraction hend
  obtain ⟨_, hreadExponent⟩ := exists_readExponent atEnd hexponent hrest
  simp only [List.append_assoc]
  rcases hsign with rfl | rfl
  · exact ⟨_, readNumeral_of_parts (.inl ⟨rfl, rfl, fun hhead => hwhole.1.head_ne (c := '-') rfl _ _ hhead rfl⟩)
      hreadWhole hreadFraction hreadExponent⟩
  · exact ⟨_, readNumeral_of_parts (.inr ⟨rfl, rfl⟩) hreadWhole hreadFraction hreadExponent⟩

end LibraryPaths.Json
