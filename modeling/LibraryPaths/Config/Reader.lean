import LibraryPaths.Config.Field
import LibraryPaths.FileSystem.Basic

/-!
# Reading a configuration

A configuration is a JSON object whose members are the fields in any order; missing ones keep their
defaults, unknown ones are skipped.  A list of values in the order of the fields is accepted too, and may
end early.  A field may not be given twice.

`Config.read` reads a text, `Config.load` a file, where a missing file stands for the defaults.
-/

set_option autoImplicit false

namespace LibraryPaths

/-- Why a configuration could not be loaded. -/
inductive ConfigError where
  | io (error : IoError)
  | json (report : Json.Report)
  deriving DecidableEq, Repr

/-- The wording of what is behind an error. -/
def ConfigError.cause : ConfigError → String
  | .io error => error.message
  | .json report => report.message

/-- The wording of an error. -/
def ConfigError.message : ConfigError → String
  | .io error => "Failed to read config: " ++ error.message
  | .json report => "Invalid config: " ++ report.message

namespace Config

open Json

/-- What stands before the next member of an object that is being read. -/
inductive MemberStart (text : List Char) where
  /-- The object ends. -/
  | closed (rest : Shorter text)
  /-- A key follows; its opening quote has been read. -/
  | key (rest : Shorter text)

/-- Goes behind the opening quote of the next key, or behind the end of the object. -/
def nextMember (isFirst : Bool) (text : List Char) : Except Stop (MemberStart text) :=
  match h : skipBlank text with
  | [] => .error (.atEnd .endInObject)
  | c :: rest =>
    have hr := length_lt_of_skipBlank h
    if c = '\x7d' then .ok (.closed ⟨rest, hr⟩)
    else if isFirst then
      if c = '"' then .ok (.key ⟨rest, hr⟩) else .error (.before .keyNotString (c :: rest))
    else if c = ',' then
      match h' : skipBlank rest with
      | [] => .error (.atEnd .endInValue)
      | d :: more =>
        have hm := length_lt_of_skipBlank h'
        if d = '"' then .ok (.key ⟨more, length_lt_trans hm hr⟩)
        else if d = '\x7d' then .error (.before .trailingComma (d :: more))
        else .error (.before .keyNotString (d :: more))
    else .error (.before .expectedObjectEnd (c :: rest))

/-- Reads the colon behind a key. -/
def readColon (text : List Char) : Except Stop (Shorter text) :=
  match h : skipBlank text with
  | [] => .error (.atEnd .endInObject)
  | c :: rest =>
    if c = ':' then .ok ⟨rest, length_lt_of_skipBlank h⟩
    else .error (.before .expectedColon (c :: rest))

/-- The stop at a key that was given before.  The object is left first: white space behind the key, and a
closing bracket behind that, count as read. -/
def repeatedStop (field : ConfigField) (text : List Char) : Stop :=
  match skipBlank text with
  | '\x7d' :: rest => ⟨.repeatedKey field.key, rest, 0⟩
  | rest => ⟨.repeatedKey field.key, rest, 0⟩

/-- Reads the value of a member, if its key is known, and skips it otherwise. -/
def readMember (field : Option ConfigField) (config : Config) (text : List Char) :
    Except Stop (Config × Shorter text) :=
  match readColon text with
  | .error stop => .error stop
  | .ok value =>
    match field with
    | some field =>
      (field.read config value.1).map fun (config, rest) => (config, rest.widen value.length_le)
    | none => (skipValue [] value.1).map fun rest => (config, rest.widen value.length_le)

/-- Reads the members of an object, up to and with its closing bracket; `given` holds the fields read
before. -/
def readMembers (isFirst : Bool) (given : List ConfigField) (config : Config) (text : List Char) :
    Except Stop (Config × Shorter text) :=
  match nextMember isFirst text with
  | .error stop => .error stop
  | .ok (.closed rest) => .ok (config, rest)
  | .ok (.key start) =>
    have hs := start.2
    match readString start.1 with
    | .error stop => .error stop
    | .ok (key, after) =>
      have ha := after.2
      let field := ConfigField.ofKey? (String.ofList key)
      match field.filter given.contains with
      | some field => .error (repeatedStop field after.1)
      | none =>
        match readMember field config after.1 with
        | .error stop => .error stop
        | .ok (config, behind) =>
          have hb : behind.1.length < text.length := by have := behind.2; omega
          match readMembers false (field.toList ++ given) config behind.1 with
          | .error stop => .error stop
          | .ok (config, rest) => .ok (config, rest.widen (Nat.le_of_lt hb))
termination_by text.length

/-- Reads the end of a list of values behind the last field. -/
def readListEnd (text : List Char) : Except Stop (List Char) :=
  match skipBlank text with
  | [] => .error (.atEnd .endInList)
  | ']' :: rest => .ok rest
  | ',' :: rest =>
    match skipBlank rest with
    | ']' :: more => .error (.before .trailingComma (']' :: more))
    | other => .error (.before .trailingCharacters other)
  | other => .error (.before .trailingCharacters other)

/-- Reads the values of fields in order, up to and with the closing bracket; where the list ends early,
the remaining fields stay as they are. -/
def readValues (isFirst : Bool) (config : Config) : List ConfigField → List Char →
    Except Stop (Config × List Char)
  | [], text => (readListEnd text).map fun rest => (config, rest)
  | field :: fields, text => do
    match ← nextItem isFirst text with
    | .closed rest => .ok (config, rest.1)
    | .item start =>
      let (config, after) ← field.read config start.1
      readValues false config fields after.1

/-- Reads a configuration and gives what follows it. -/
def readValue (text : List Char) : Except Stop (Config × List Char) :=
  match skipBlank text with
  | [] => .error (.atEnd .endInValue)
  | c :: rest =>
    if c = '\x7b' then (readMembers true [] {} rest).map fun (config, after) => (config, after.1)
    else if c = '[' then readValues true {} ConfigField.all rest
    else .error (mistyped "struct SyncConfig" (c :: rest))

/-- Reads a text that holds a configuration and nothing else. -/
def readAll (text : List Char) : Except Stop Config :=
  match readValue text with
  | .error stop => .error stop
  | .ok (config, rest) =>
    match skipBlank rest with
    | [] => .ok config
    | other => .error (.before .trailingCharacters other)

/-- Reads the text of a configuration. -/
def read (text : String) : Except Report Config :=
  (readAll text.toList).mapError (·.report text.toList)

/-- Loads a configuration from a file; a missing file stands for the defaults. -/
def load (fs : FileSystem) (p : Path) : Except ConfigError Config :=
  match fs.readText p with
  | .ok text => (read text).mapError .json
  | .error .notFound => .ok {}
  | .error error => .error (.io error)

end Config

end LibraryPaths
