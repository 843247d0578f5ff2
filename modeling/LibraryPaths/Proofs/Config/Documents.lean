import LibraryPaths.Proofs.Config.Members
import LibraryPaths.Proofs.Text.Octets

/-!
# Configuration files

A configuration file holds one object, with white space around it (`Document`).  What is loaded from it depends
on the fields that have members and on their values alone (`known`, `Overrides.of_perm_known`): not on the order
of the members, the white space between them, the escapes in their names, or the members of no field.

* `load_of_read`: every file whose names are legible is loaded, with the defaults where a field has no member; any
  other name, such as half of a surrogate pair, is an error.
-/

set_option autoImplicit false

namespace LibraryPaths.Config

open Json

variable {field : ConfigField} {member : Member} {members others : List Member} {config config' : Config}
  {value : List Char}

/-! ## The members of fields -/

/-- The field that a member belongs to. -/
def field? (member : Member) : Option ConfigField := ConfigField.all.find? fun field => decide (field.Names member)

theorem field?_eq_some_iff : field? member = some field ↔ field.Names member := by
  constructor
  · intro h
    have hname := List.find?_some h
    exact of_decide_eq_true hname
  · intro h
    have hfound : (field? member).isSome := by
      unfold field?
      rw [List.find?_isSome]
      exact ⟨field, by cases field <;> decide, decide_eq_true h⟩
    obtain ⟨other, hother⟩ := Option.isSome_iff_exists.1 hfound
    have hname := List.find?_some hother
    rw [hother, eq_of_names (of_decide_eq_true hname) h]

/-- The fields that have members, and their values as they are written. -/
def known (members : List Member) : List (ConfigField × List Char) :=
  members.filterMap fun member => (field? member).map (·, member.value.value)

theorem mem_known_iff :
    (field, value) ∈ known members ↔ ∃ member ∈ members, field.Names member ∧ member.value.value = value := by
  simp [known, field?_eq_some_iff]

theorem exists_names_of_perm_known (h : (known members).Perm (known others)) (hmember : member ∈ members)
    (hname : field.Names member) : ∃ other ∈ others, field.Names other ∧ other.value.value = member.value.value :=
  mem_known_iff.1 (h.mem_iff.1 (mem_known_iff.2 ⟨member, hmember, hname, rfl⟩))

/-- **Only the values of the fields count.** -/
theorem Overrides.of_perm_known (h : Overrides members config config')
    (hperm : (known members).Perm (known others)) : Overrides others config config' where
  named other hother field hname := by
    obtain ⟨member, hmember, hname', hvalue⟩ := exists_names_of_perm_known hperm.symm hother hname
    rw [← hvalue]
    exact h.named member hmember field hname'
  unnamed field hfield := h.unnamed field fun member hmember hname => by
    obtain ⟨other, hother, hname', -⟩ := exists_names_of_perm_known hperm hmember hname
    exact hfield other hother hname'

/-! ## Files -/

/-- The text of a configuration file: an object with white space around it. -/
structure Document where
  before : Blank
  gap : Blank
  members : List Member
  after : Blank
  admissible : Admissible members

/-- How a configuration file is written. -/
def Document.text (document : Document) : List Char :=
  document.before.1 ++
    '\x7b' :: (enclosed document.gap (document.members.map Member.text) ++ '\x7d' :: document.after.1)

theorem readValue_text (document : Document) :
    readValue document.text =
      gives (readMembers true [] {}
        (enclosed document.gap (document.members.map Member.text) ++ '\x7d' :: document.after.1)) := by
  unfold readValue Document.text
  rw [skipBlank_blank_cons document.before rfl]
  rfl

theorem skipBlank_blank (blank : Blank) : skipBlank blank.1 = [] := by
  have h := skipBlank_append blank []
  rwa [List.append_nil] at h

/-- A file is loaded as its members are read. -/
theorem load_cases {fs : FileSystem} {p : Path} {document : Document}
    (hread : fs.read p = .ok (Utf8.encode document.text)) :
    (∀ member ∈ document.members, member.IsLegible) ∧
        (∃ config, load fs p = .ok config ∧ Overrides document.members {} config) ∨
      (∃ member ∈ document.members, ¬ member.IsLegible) ∧ ∃ report, load fs p = .error (.json report) := by
  have htext : fs.readText p = .ok (String.ofList document.text) := by
    unfold FileSystem.readText
    rw [hread]
    simp only [bind, Except.bind, Utf8.decode?_encode]
  have hall := readAs_enclosed document.admissible document.gap {} document.after.1
  rw [← readValue_text] at hall
  unfold load read
  rw [htext]
  simp only [String.toList_ofList]
  unfold readAll
  generalize readValue document.text = result at hall
  cases hall with
  | ok hlegible hoverrides =>
    simp only [skipBlank_blank]
    exact .inl ⟨hlegible, _, rfl, hoverrides⟩
  | error hillegible => exact .inr ⟨hillegible, _, rfl⟩

/-- **Every configuration object is loaded**, if its names are legible: with the value of its member for a field
that has one, and the default for the others.  Another object in which the same fields have the same values, in any
order and among any other members, gives the same configuration.  A name that spells no text is an error. -/
theorem load_of_read {fs : FileSystem} {p : Path} {document : Document}
    (hread : fs.read p = .ok (Utf8.encode document.text)) :
    ((∀ member ∈ document.members, member.IsLegible) →
      ∃ config, load fs p = .ok config ∧ Overrides document.members {} config ∧
        ∀ (fs' : FileSystem) (p' : Path) (other : Document), fs'.read p' = .ok (Utf8.encode other.text) →
          (∀ member ∈ other.members, member.IsLegible) → (known document.members).Perm (known other.members) →
          load fs' p' = .ok config) ∧
      ((∃ member ∈ document.members, ¬ member.IsLegible) → ∃ report, load fs p = .error (.json report)) := by
  rcases load_cases hread with ⟨hlegible, config, hload, hoverrides⟩ | ⟨hillegible, hload⟩
  · refine ⟨fun _ => ⟨config, hload, hoverrides, fun fs' p' other hread' hlegible' hperm => ?_⟩, ?_⟩
    · rcases load_cases hread' with ⟨-, config', hload', hoverrides'⟩ | ⟨⟨member, hmember, hillegible⟩, -⟩
      · rw [hload', (hoverrides.of_perm_known hperm).unique hoverrides']
      · exact absurd (hlegible' member hmember) hillegible
    · rintro ⟨member, hmember, hillegible⟩
      exact absurd (hlegible member hmember) hillegible
  · refine ⟨fun hlegible => ?_, fun _ => hload⟩
    obtain ⟨member, hmember, hillegible⟩ := hillegible
    exact absurd (hlegible member hmember) hillegible

/-! ## Small files -/

/-- A file system with one file, `/c`. -/
def oneFile (content : List UInt8) : FileSystem := ⟨[([99], .file content)], []⟩

theorem read_oneFile (content : List UInt8) : (oneFile content).read (.ofString "/c") = .ok content := rfl

/-- A string that stands for half of a surrogate pair. -/
def halfPair : List Piece := [.code 'd' '8' '0' '0' 0xD800 rfl]

theorem not_spells_halfPair (text : List Char) : ¬ Spells halfPair text := fun h => by
  obtain ⟨_, _, hnext, -⟩ := exists_of_spells_of_isLeading rfl rfl h
  cases hnext

/-- A name in which every character stands for itself. -/
def plainly (name : String)
    (h : (name.toList.all fun c => decide (c ≠ '"' ∧ c ≠ '\\' ∧ 0x20 ≤ c.toNat)) = true) : List Piece :=
  name.toList.pmap .plain fun c hc => of_decide_eq_true (List.all_eq_true.1 h c hc)

/-- A member without white space. -/
def tight (name : List Piece) (value : String) : Member :=
  ⟨noBlank, name, noBlank, ⟨noBlank, value.toList, noBlank⟩⟩

def windowMember : Member := tight (plainly "debounceMs" rfl) "250"

/-- The key is written with an escape. -/
def libraryMember : Member := tight (.code '0' '0' '6' 'c' 0x6c rfl :: plainly "ibrary" rfl) "[\"a\"]"

/-- A member of no field, whose value is an object with an illegible name. -/
def nestedMember : Member := tight (plainly "x" rfl) "\x7b\"\\ud800\":null\x7d"

def halfPairMember : Member := tight halfPair "true"

theorem names_windowMember : ConfigField.window.Names windowMember := by decide

theorem writes_windowMember : ConfigField.window.Writes windowMember.value.value (250 : Nat) :=
  ⟨⟨⟨by decide, List.all_eq_true.1 rfl⟩, by decide⟩, by decide, by decide⟩

theorem names_libraryMember : ConfigField.library.Names libraryMember := by decide

theorem writes_libraryMember : ConfigField.library.Writes libraryMember.value.value ["a"] :=
  ⟨noBlank, [⟨noBlank, inQuotes (plainly "a" rfl), noBlank⟩], by decide,
    .cons ⟨_, rfl, by decide⟩ .nil⟩

theorem not_names_nestedMember (field : ConfigField) : ¬ field.Names nestedMember := by
  cases field <;> decide

theorem isValue_nestedMember : IsValue nestedMember.value.value := by
  have hnull : ∀ member ∈ [tight halfPair "null"], IsValue member.value.value := by
    simpa using .word (by decide)
  exact .object noBlank hnull

/-- Two fields behind a member of no field. -/
def scattered : Document where
  before := noBlank
  gap := noBlank
  members := [nestedMember, windowMember, libraryMember]
  after := noBlank
  admissible := .cons_unnamed not_names_nestedMember isValue_nestedMember
    (.cons_named names_windowMember writes_windowMember (by decide)
      (.cons_named names_libraryMember writes_libraryMember (by simp) .nil))

/-- The two fields in the other order, and nothing else. -/
def gathered : Document where
  before := noBlank
  gap := noBlank
  members := [libraryMember, windowMember]
  after := noBlank
  admissible := .cons_named names_libraryMember writes_libraryMember (by decide)
    (.cons_named names_windowMember writes_windowMember (by simp) .nil)

/-- A field and a member whose name is illegible. -/
def halfNamed : Document where
  before := noBlank
  gap := noBlank
  members := [windowMember, halfPairMember]
  after := noBlank
  admissible := .cons_named names_windowMember writes_windowMember (by decide)
    (.cons_unnamed (fun field => not_spells_halfPair field.key.toList) (.word (by decide)) .nil)

example : String.ofList halfNamed.text = "\x7b\"debounceMs\":250,\"\\ud800\":true\x7d" := by decide

theorem load_of_read_gathered :
    load (oneFile (Utf8.encode scattered.text)) (.ofString "/c") = .ok { window := 250, library := ["a"] } ∧
      load (oneFile (Utf8.encode gathered.text)) (.ofString "/c") = .ok { window := 250, library := ["a"] } ∧
      ∃ report, load (oneFile (Utf8.encode halfNamed.text)) (.ofString "/c") = .error (.json report) := by
  have hx : nestedMember.IsLegible := ⟨"x".toList, by decide⟩
  have hwindow := isLegible_of_names names_windowMember
  have hlibrary := isLegible_of_names names_libraryMember
  have hfields : Overrides scattered.members {} { window := 250, library := ["a"] } :=
    .cons_unnamed not_names_nestedMember (.cons_named names_windowMember writes_windowMember (by decide)
      (.cons_named names_libraryMember writes_libraryMember (by simp) (.refl _)))
  obtain ⟨config, hload, hoverrides, hsame⟩ :=
    (load_of_read (read_oneFile (Utf8.encode scattered.text))).1 (by simp [scattered, hx, hwindow, hlibrary])
  obtain rfl := hoverrides.unique hfields
  refine ⟨hload, hsame _ _ gathered (read_oneFile _) (by simp [gathered, hwindow, hlibrary]) ?_, ?_⟩
  · exact .swap _ _ _
  · exact (load_of_read (read_oneFile (Utf8.encode halfNamed.text))).2
      ⟨halfPairMember, by simp [halfNamed], fun ⟨name, hname⟩ => not_spells_halfPair name hname⟩

/-- A configuration object with an illegible name is not loaded, though the name belongs to no field. -/
theorem not_forall_load_ok :
    ¬ ∀ (fs : FileSystem) (p : Path) (document : Document), fs.read p = .ok (Utf8.encode document.text) →
      ∃ config, load fs p = .ok config ∧ Overrides document.members {} config := by
  intro h
  obtain ⟨config, hload, -⟩ := h _ _ halfNamed (read_oneFile _)
  rcases load_cases (read_oneFile (Utf8.encode halfNamed.text)) with ⟨hlegible, -⟩ | ⟨-, report, herror⟩
  · obtain ⟨name, hname⟩ := hlegible halfPairMember (by simp [halfNamed])
    exact not_spells_halfPair name hname
  · rw [hload] at herror
    cases herror

end LibraryPaths.Config
