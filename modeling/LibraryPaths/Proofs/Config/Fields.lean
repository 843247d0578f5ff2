import LibraryPaths.Config.Field
import LibraryPaths.Proofs.Json.Typed

/-!
# The fields of a configuration

A field has a type of values, and a configuration is what its fields hold (`ConfigField.ext`).  Reading a value of
its type sets a field and leaves the others as they are (`ConfigField.gives_read`), so a text is the value of a
field in one way (`ConfigField.Writes.unique`).
-/

set_option autoImplicit false

namespace LibraryPaths.ConfigField

open Json

variable {field other : ConfigField} {config config' : Config} {text rest : List Char}

/-- The values that a field can have. -/
def Value : ConfigField → Type
  | .window => Nat
  | .clientName | .sourceDir | .sectionName => String
  | .runtime => Option Path
  | .library | .markers | .conflicts => List String

/-- What a configuration holds in a field. -/
def get : (field : ConfigField) → Config → field.Value
  | .window, config => config.window
  | .clientName, config => config.clientName
  | .sourceDir, config => config.sourceDir
  | .sectionName, config => config.sectionName
  | .runtime, config => config.runtime
  | .library, config => config.library
  | .markers, config => config.markers
  | .conflicts, config => config.conflicts

/-- A configuration with another value in a field. -/
def set : (field : ConfigField) → field.Value → Config → Config
  | .window, value, config => { config with window := value }
  | .clientName, value, config => { config with clientName := value }
  | .sourceDir, value, config => { config with sourceDir := value }
  | .sectionName, value, config => { config with sectionName := value }
  | .runtime, value, config => { config with runtime := value }
  | .library, value, config => { config with library := value }
  | .markers, value, config => { config with markers := value }
  | .conflicts, value, config => { config with conflicts := value }

/-- A text is a value of the type of a field: an integer of 64 bits without a sign, a string, a list of strings,
or for the runtime a string or a null. -/
def Writes : (field : ConfigField) → List Char → field.Value → Prop
  | .window, text, value => WritesNumber text value
  | .clientName, text, value | .sourceDir, text, value | .sectionName, text, value => WritesText text value
  | .runtime, text, value =>
    text = "null".toList ∧ value = none ∨ ∃ path, WritesText text path ∧ value = some (Path.ofString path)
  | .library, text, values | .markers, text, values | .conflicts, text, values => WritesTexts text values

theorem get_set (field : ConfigField) (value : field.Value) (config : Config) :
    field.get (field.set value config) = value := by
  cases field <;> rfl

theorem get_set_of_ne (h : other ≠ field) (value : field.Value) (config : Config) :
    other.get (field.set value config) = other.get config := by
  cases field <;> cases other <;> first | rfl | exact absurd rfl h

/-- **A configuration is what its fields hold.** -/
theorem ext (h : ∀ field : ConfigField, field.get config = field.get config') : config = config' := by
  cases config
  cases config'
  congr
  · exact h .window
  · exact h .clientName
  · exact h .sourceDir
  · exact h .sectionName
  · exact h .runtime
  · exact h .library
  · exact h .markers
  · exact h .conflicts

/-- A field is found by its key and by no other one. -/
theorem ofKey?_eq_some_iff {key : String} : ofKey? key = some field ↔ key = field.key := by
  constructor
  · intro h
    unfold ofKey? at h
    have hkey := List.find?_some h
    exact (eq_of_beq hkey).symm
  · rintro rfl
    cases field <;> rfl

/-! ## Reading -/

theorem gives_map {α β : Type} {p : List Char → Prop} {result : Except Stop (α × Subtype p)} {value : α}
    (f : α → β) (h : gives result = .ok (value, rest)) :
    gives (result.map fun (value, rest) => (f value, rest)) = .ok (f value, rest) := by
  obtain ⟨_, rfl⟩ := gives_eq_ok h
  rfl

/-- **Reading a value sets its field.** -/
theorem gives_read {value : field.Value} (h : field.Writes text value) (config : Config) (before : Blank)
    (hrest : EndsNumber rest) :
    gives (field.read config (before.1 ++ (text ++ rest))) = .ok (field.set value config, rest) := by
  cases field with
  | window =>
    exact gives_map (fun value => { config with window := value }) (gives_readUnsigned h before hrest)
  | clientName =>
    exact gives_map (fun value => { config with clientName := value }) (gives_readText _ h before rest)
  | sourceDir =>
    exact gives_map (fun value => { config with sourceDir := value }) (gives_readText _ h before rest)
  | sectionName =>
    exact gives_map (fun value => { config with sectionName := value }) (gives_readText _ h before rest)
  | runtime =>
    rcases h with ⟨rfl, rfl⟩ | ⟨path, hpath, rfl⟩
    · exact gives_map (fun value => { config with runtime := value.map Path.ofString })
        (gives_readOptionalText_null before rest)
    · exact gives_map (fun value => { config with runtime := value.map Path.ofString })
        (gives_readOptionalText hpath before rest)
  | library =>
    exact gives_map (fun value => { config with library := value }) (gives_readTexts h before rest)
  | markers =>
    exact gives_map (fun value => { config with markers := value }) (gives_readTexts h before rest)
  | conflicts =>
    exact gives_map (fun value => { config with conflicts := value }) (gives_readTexts h before rest)

/-- A text is the value of a field in one way. -/
theorem Writes.unique {value value' : field.Value} (h : field.Writes text value) (h' : field.Writes text value') :
    value = value' := by
  have hread := gives_read h {} noBlank endsNumber_nil
  have hread' := gives_read h' {} noBlank endsNumber_nil
  have hset := (Prod.mk.inj (Except.ok.inj (hread.symm.trans hread'))).1
  rw [← get_set field value {}, hset, get_set]

end LibraryPaths.ConfigField
