import LibraryPaths.Proofs.Path.Spelling
import LibraryPaths.Uri.Basic

/-!
# Addresses of directories lead back

The address of a directory given by plain names leads to that directory: every octet of a name that could be
misread in an address is encoded, and each encoded one is read back (`Percent.decode_encode`).  The slash at
the end of an address is dropped once, so it stands for no name (`Uri.toPath?_of_ofDirectory?`).
-/

set_option autoImplicit false

namespace LibraryPaths

namespace Percent

/-- An octet that need not be encoded is an ASCII character, and not the mark of an encoded one. -/
theorem char_of_not_inName {b : UInt8} (h : inName b = false) :
    Char.ofNat b.toNat ≠ '%' ∧ String.utf8EncodeChar (Char.ofNat b.toNat) = [b] := by
  have hall : ∀ n : Fin 256, inName (UInt8.ofNat n.val) = false →
      Char.ofNat n.val ≠ '%' ∧ String.utf8EncodeChar (Char.ofNat n.val) = [UInt8.ofNat n.val] := by
    decide +kernel
  have hb := hall ⟨b.toNat, b.toNat_lt⟩
  rw [UInt8.ofNat_toNat] at hb
  exact hb h

theorem decode_cons_of_ne {c : Char} (hc : c ≠ '%') (rest : List Char) :
    decode (c :: rest) = String.utf8EncodeChar c ++ decode rest := by
  rw [decode]
  exact fun a b tail hcons _ => hc hcons

/-- One octet is read back. -/
theorem decode_encodeOctet (b : UInt8) (rest : List Char) :
    decode (encodeOctet inName b ++ rest) = b :: decode rest := by
  unfold encodeOctet
  cases h : inName b with
  | false =>
    obtain ⟨hne, hbyte⟩ := char_of_not_inName h
    rw [if_neg Bool.false_ne_true, List.singleton_append, decode_cons_of_ne hne, hbyte,
      List.singleton_append]
  | true =>
    have hlt := b.toNat_lt
    have hhigh : hexValue? (hexDigit (b.toNat / 16)) = some (b.toNat / 16) :=
      hexValue?_hexDigit (by omega)
    have hlow : hexValue? (hexDigit (b.toNat % 16)) = some (b.toNat % 16) :=
      hexValue?_hexDigit (by omega)
    have hvalue : b.toNat / 16 * 16 + b.toNat % 16 = b.toNat := by omega
    rw [if_pos rfl, List.cons_append, List.cons_append, List.singleton_append, decode]
    simp only [hhigh, hlow, hvalue, UInt8.ofNat_toNat]

/-- **Encoded names are read back.** -/
theorem decode_encode (name : Name) : decode (encode inName name) = name := by
  induction name with
  | nil => rfl
  | cons b name ih =>
    unfold encode at ih ⊢
    rw [List.flatMap_cons, decode_encodeOctet, ih]

end Percent

namespace Uri

variable {names : List Name}

/-- The address of a directory has its names and an empty segment. -/
theorem ofDirectory?_ofNames (h : ∀ n ∈ names, PlainName n) :
    ofDirectory? (.ofNames names) =
      some (.file "" (names.map (fun n => segment (.name n)) ++ [""]) "") := by
  have habsolute : (Path.ofNames names).isAbsolute = true := rfl
  unfold ofDirectory?
  rw [if_pos habsolute, Path.components_ofNames h, List.drop_succ_cons, List.drop_zero,
    List.map_map]
  rfl

/-- The root is written as an empty segment, and no other directory ends with one that is kept. -/
theorem dropTrailingSlash_concat (segments : List String) :
    dropTrailingSlash (segments ++ [""]) = if segments = [] then [""] else segments := by
  cases segments with
  | nil => rfl
  | cons s segments =>
    unfold dropTrailingSlash
    rw [if_pos ⟨List.getLast?_concat, by simp⟩, List.dropLast_concat, if_neg (by simp)]

/-- **The address of a directory leads back to it.** -/
theorem toPath?_of_ofDirectory? (h : ∀ n ∈ names, PlainName n) {uri : Uri}
    (huri : ofDirectory? (.ofNames names) = some uri) : uri.toPath? = some (.ofNames names) := by
  rw [ofDirectory?_ofNames h, Option.some.injEq] at huri
  rw [← huri, file, toPath?, if_pos ⟨by simp, rfl⟩, dropTrailingSlash_concat]
  cases names with
  | nil => rfl
  | cons n names =>
    have hdecode : ∀ n : Name, Percent.decode (segment (.name n)).toList = n := by
      intro n
      rw [segment, String.toList_ofList, Percent.decode_encode]
    rw [if_neg (by simp), List.map_map]
    simp [Function.comp_def, hdecode]

/-! ## Canonical paths -/

variable {fs : FileSystem} {p canonical : Path}

/-- A canonical path is absolute, so it has an address. -/
theorem exists_ofDirectory? (h : fs.canonical p = .ok canonical) :
    ∃ uri, ofDirectory? canonical = some uri := by
  obtain ⟨location, -, rfl⟩ := FileSystem.exists_follow_of_canonical h
  exact ⟨_, if_pos rfl⟩

/-- **The address of a canonical path leads back to it**, where the working directory has plain names. -/
theorem toPath?_of_canonical (hwork : ∀ n ∈ fs.workingDirectory, PlainName n)
    (h : fs.canonical p = .ok canonical) {uri : Uri} (huri : ofDirectory? canonical = some uri) :
    uri.toPath? = some canonical := by
  obtain ⟨location, hfollow, rfl⟩ := FileSystem.exists_follow_of_canonical h
  exact toPath?_of_ofDirectory? (FileSystem.plainName_of_follow hwork hfollow) huri

end Uri

end LibraryPaths
