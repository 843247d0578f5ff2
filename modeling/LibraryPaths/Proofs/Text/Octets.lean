import LibraryPaths.Text.Utf8

/-!
# Texts read back from their octets

The octets of a character are read one by one, and the last of them completes it (`pieces_encodeChar`).  So every
text is read back from its octets (`decode?_encode`), and a text has octets of its own.
-/

set_option autoImplicit false

namespace LibraryPaths.Utf8

variable {b d e f : Nat} {octets : List UInt8} {p : Pending}

/-! ## Single octets -/

theorem toNat_ofNat_of_lt (h : b < 256) : (UInt8.ofNat b).toNat = b := by
  rw [UInt8.toNat_ofNat']
  omega

theorem pieces_first (hb : b < 256) (h : start b = ([], .within p)) :
    pieces .ready (UInt8.ofNat b :: octets) = pieces (.within p) octets := by
  rw [pieces, feed, toNat_ofNat_of_lt hb, h]
  rfl

theorem pieces_inner (hd : d < 256) (hbounds : p.low ≤ d ∧ d ≤ p.high) (hmissing : 1 < p.missing) :
    pieces (.within p) (UInt8.ofNat d :: octets) =
      pieces (.within ⟨p.code * 64 + (d - 0x80), p.missing - 1, 0x80, 0xBF⟩) octets := by
  rw [pieces, feed, toNat_ofNat_of_lt hd, if_pos hbounds]
  simp only [if_neg (Nat.not_le.2 hmissing), List.nil_append]

theorem pieces_last (hd : d < 256) (hbounds : p.low ≤ d ∧ d ≤ p.high) (hmissing : p.missing ≤ 1) :
    pieces (.within p) (UInt8.ofNat d :: octets) =
      some (Char.ofNat (p.code * 64 + (d - 0x80))) :: pieces .ready octets := by
  rw [pieces, feed, toNat_ofNat_of_lt hd, if_pos hbounds]
  simp only [if_pos hmissing, List.singleton_append]

/-! ## Characters of two, three and four octets -/

theorem pieces_of_two (hb : 0xC2 ≤ b ∧ b ≤ 0xDF) (hd : 0x80 ≤ d ∧ d ≤ 0xBF) :
    pieces .ready (UInt8.ofNat b :: UInt8.ofNat d :: octets) =
      some (Char.ofNat ((b - 0xC0) * 64 + (d - 0x80))) :: pieces .ready octets := by
  have hstart : start b = ([], .within ⟨b - 0xC0, 1, 0x80, 0xBF⟩) := by
    unfold start
    rw [if_neg (by omega), if_neg (by omega), if_pos (by omega)]
  rw [pieces_first (by omega) hstart, pieces_last (by omega) hd (Nat.le_refl 1)]

/-- The first octet of three bounds the second one. -/
theorem start_of_three (hb : 0xE0 ≤ b ∧ b ≤ 0xEF) (hd : 0x80 ≤ d ∧ d ≤ 0xBF) (hleast : b = 0xE0 → 0xA0 ≤ d)
    (hsurrogate : b = 0xED → d ≤ 0x9F) :
    ∃ low high, start b = ([], .within ⟨b - 0xE0, 2, low, high⟩) ∧ low ≤ d ∧ d ≤ high := by
  unfold start
  rw [if_neg (by omega), if_neg (by omega), if_neg (by omega)]
  by_cases hfirst : b = 0xE0
  · exact ⟨_, _, if_pos hfirst, hleast hfirst, hd.2⟩
  · rw [if_neg hfirst]
    by_cases hmiddle : b = 0xED
    · exact ⟨_, _, if_pos hmiddle, hd.1, hsurrogate hmiddle⟩
    · rw [if_neg hmiddle]
      exact ⟨_, _, if_pos (by omega), hd⟩

theorem pieces_of_three (hb : 0xE0 ≤ b ∧ b ≤ 0xEF) (hd : 0x80 ≤ d ∧ d ≤ 0xBF) (hleast : b = 0xE0 → 0xA0 ≤ d)
    (hsurrogate : b = 0xED → d ≤ 0x9F) (he : 0x80 ≤ e ∧ e ≤ 0xBF) :
    pieces .ready (UInt8.ofNat b :: UInt8.ofNat d :: UInt8.ofNat e :: octets) =
      some (Char.ofNat (((b - 0xE0) * 64 + (d - 0x80)) * 64 + (e - 0x80))) :: pieces .ready octets := by
  obtain ⟨low, high, hstart, hbounds⟩ := start_of_three hb hd hleast hsurrogate
  rw [pieces_first (by omega) hstart, pieces_inner (by omega) hbounds (by simp),
    pieces_last (by omega) he (Nat.le_refl 1)]

/-- The first octet of four bounds the second one. -/
theorem start_of_four (hb : 0xF0 ≤ b ∧ b ≤ 0xF4) (hd : 0x80 ≤ d ∧ d ≤ 0xBF) (hleast : b = 0xF0 → 0x90 ≤ d)
    (hgreatest : b = 0xF4 → d ≤ 0x8F) :
    ∃ low high, start b = ([], .within ⟨b - 0xF0, 3, low, high⟩) ∧ low ≤ d ∧ d ≤ high := by
  unfold start
  rw [if_neg (by omega), if_neg (by omega), if_neg (by omega), if_neg (by omega), if_neg (by omega),
    if_neg (by omega)]
  by_cases hfirst : b = 0xF0
  · exact ⟨_, _, if_pos hfirst, hleast hfirst, hd.2⟩
  · rw [if_neg hfirst]
    by_cases hlast : b = 0xF4
    · rw [if_neg (by omega)]
      exact ⟨_, _, if_pos hlast, hd.1, hgreatest hlast⟩
    · exact ⟨_, _, if_pos (by omega), hd⟩

theorem pieces_of_four (hb : 0xF0 ≤ b ∧ b ≤ 0xF4) (hd : 0x80 ≤ d ∧ d ≤ 0xBF) (hleast : b = 0xF0 → 0x90 ≤ d)
    (hgreatest : b = 0xF4 → d ≤ 0x8F) (he : 0x80 ≤ e ∧ e ≤ 0xBF) (hf : 0x80 ≤ f ∧ f ≤ 0xBF) :
    pieces .ready (UInt8.ofNat b :: UInt8.ofNat d :: UInt8.ofNat e :: UInt8.ofNat f :: octets) =
      some (Char.ofNat ((((b - 0xF0) * 64 + (d - 0x80)) * 64 + (e - 0x80)) * 64 + (f - 0x80))) ::
        pieces .ready octets := by
  obtain ⟨low, high, hstart, hbounds⟩ := start_of_four hb hd hleast hgreatest
  rw [pieces_first (by omega) hstart, pieces_inner (by omega) hbounds (by simp),
    pieces_inner (by omega) he (by simp), pieces_last (by omega) hf (Nat.le_refl 1)]

/-! ## Characters and texts -/

/-- The octets of a character are read as that character. -/
theorem pieces_encodeChar (c : Char) (octets : List UInt8) :
    pieces .ready (String.utf8EncodeChar c ++ octets) = some c :: pieces .ready octets := by
  have hvalid : c.toNat < 0xD800 ∨ 0xDFFF < c.toNat ∧ c.toNat < 0x110000 := c.valid
  have hback : ∀ n, n = c.toNat →
      some (Char.ofNat n) :: pieces .ready octets = some c :: pieces .ready octets := by
    rintro n rfl
    rw [Char.ofNat_toNat]
  unfold String.utf8EncodeChar
  rw [show c.val.toNat = c.toNat from rfl]
  generalize c.toNat = v at hvalid hback
  simp only
  by_cases hone : v ≤ 127
  · rw [if_pos hone, List.singleton_append, pieces, feed, toNat_ofNat_of_lt (by omega), start,
      if_pos (by omega)]
    exact hback v rfl
  rw [if_neg hone]
  by_cases htwo : v ≤ 2047
  · rw [if_pos htwo]
    exact (pieces_of_two (by omega) (by omega)).trans (hback _ (by omega))
  rw [if_neg htwo]
  by_cases hthree : v ≤ 65535
  · rw [if_pos hthree]
    exact (pieces_of_three (by omega) (by omega) (by omega) (by omega) (by omega)).trans (hback _ (by omega))
  · rw [if_neg hthree]
    exact (pieces_of_four (by omega) (by omega) (by omega) (by omega) (by omega) (by omega)).trans
      (hback _ (by omega))

theorem pieces_encode (text : List Char) : pieces .ready (encode text) = text.map some := by
  induction text with
  | nil => rfl
  | cons c text ih =>
    rw [encode, List.flatMap_cons, pieces_encodeChar, List.map_cons]
    exact congrArg _ ih

/-- **A text is read back from its octets.** -/
theorem decode?_encode (text : List Char) : decode? (encode text) = some text := by
  rw [decode?, pieces_encode, List.mapM_map]
  exact List.mapM_pure.trans (congrArg some (List.map_id _))

end LibraryPaths.Utf8
