import LibraryPaths.Client.Settings

/-!
# The text of a settings object

Settings are written as JSON, two spaces for each level and one path a line.  Inside strings the quote,
the backslash and controls are escaped; everything else is written as it is.
-/

set_option autoImplicit false

namespace LibraryPaths.Settings

/-- One character inside a JSON string. -/
def stringChar (c : Char) : List Char :=
  match c with
  | '"' => ['\\', '"']
  | '\\' => ['\\', '\\']
  | '\x08' => ['\\', 'b']
  | '\x0c' => ['\\', 'f']
  | '\n' => ['\\', 'n']
  | '\r' => ['\\', 'r']
  | '\t' => ['\\', 't']
  | _ =>
    if c.toNat < 0x20 then
      "\\u00".toList ++ (if c.toNat < 0x10 then ['0'] else []) ++ Nat.toDigits 16 c.toNat
    else [c]

/-- A JSON string. -/
def stringText (text : String) : String :=
  String.ofList ('"' :: text.toList.flatMap stringChar ++ ['"'])

/-- The text of a list, whose closing bracket stands behind three levels of spaces. -/
def listText (items : List String) : String :=
  if items.isEmpty then "[]"
  else
    "[\n" ++ ",\n".intercalate (items.map fun item => "        " ++ stringText item) ++ "\n      ]"

/-- The text of a settings object. -/
def render (settings : Settings) : String :=
  "\x7b\n  " ++ stringText settings.sectionName ++ ": \x7b\n    \"workspace\": \x7b\n      \"library\": " ++
    listText settings.library ++ "\n    \x7d\n  \x7d\n\x7d"

end LibraryPaths.Settings
