import LibraryPaths.Config.Basic
import LibraryPaths.Json.Typed

/-!
# The members of a configuration

Each field of the configuration has a key and a type; reading it replaces the field and leaves the others
as they are.
-/

set_option autoImplicit false

namespace LibraryPaths

/-- A field of the configuration. -/
inductive ConfigField where
  | window
  | clientName
  | sourceDir
  | sectionName
  | runtime
  | library
  | markers
  | conflicts
  deriving DecidableEq, Repr

namespace ConfigField

/-- All fields, in the order in which a list of values gives them. -/
def all : List ConfigField :=
  [.window, .clientName, .sourceDir, .sectionName, .runtime, .library, .markers, .conflicts]

/-- The key of a field. -/
def key : ConfigField → String
  | .window => "debounceMs"
  | .clientName => "clientName"
  | .sourceDir => "sourceDir"
  | .sectionName => "settingsSection"
  | .runtime => "runtime"
  | .library => "library"
  | .markers => "disableMarkers"
  | .conflicts => "conflictingModules"

/-- The field with a key. -/
def ofKey? (key : String) : Option ConfigField :=
  all.find? (·.key == key)

/-- Reads the value of a field into a configuration. -/
def read (field : ConfigField) (config : Config) (text : List Char) :
    Except Json.Stop (Config × Json.Shorter text) :=
  match field with
  | .window => (Json.readUnsigned text).map fun (value, rest) => ({ config with window := value }, rest)
  | .clientName =>
    (Json.readText "a string" text).map fun (value, rest) =>
      ({ config with clientName := value }, rest)
  | .sourceDir =>
    (Json.readText "a string" text).map fun (value, rest) =>
      ({ config with sourceDir := value }, rest)
  | .sectionName =>
    (Json.readText "a string" text).map fun (value, rest) =>
      ({ config with sectionName := value }, rest)
  | .runtime =>
    (Json.readOptionalText "path string" text).map fun (value, rest) =>
      ({ config with runtime := value.map Path.ofString }, rest)
  | .library => (Json.readTexts text).map fun (values, rest) => ({ config with library := values }, rest)
  | .markers => (Json.readTexts text).map fun (values, rest) => ({ config with markers := values }, rest)
  | .conflicts =>
    (Json.readTexts text).map fun (values, rest) => ({ config with conflicts := values }, rest)

end ConfigField

end LibraryPaths
