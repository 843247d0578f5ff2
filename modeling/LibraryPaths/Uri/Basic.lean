import LibraryPaths.Path.Basic
import LibraryPaths.Uri.Percent

/-!
# Addresses of workspace folders

A workspace folder is named by an address.  An address leads to a path if it has path segments and names no
other machine, whatever its scheme is: `file:///work/app` and `untitled:/work/app` lead to `/work/app`, while
`file://host/work/app` and `untitled:Untitled-1` lead nowhere.

* `Uri.ofDirectory?` is the address of a directory, with a slash at its end;
* `Uri.toPath?` is the path an address leads to;
* `Uri.render` is the text by which addresses are compared and shown.
-/

set_option autoImplicit false

namespace LibraryPaths

/-- What stands between the two slashes of an address and its path: the user with the mark behind it, the
host, and the port with the mark before it.  Each of them may be empty. -/
structure Authority where
  user : String
  host : String
  port : String
  deriving DecidableEq, Repr, Inhabited

/-- The address of a workspace folder. -/
inductive Uri where
  /-- An address with encoded path segments, of which there are none if it has no path, and with the query and
  fragment with their marks. -/
  | located (scheme : String) (authority : Option Authority) (segments : List String) (suffix : String)
  /-- An address whose path does not begin with a slash, with all that follows its scheme. -/
  | rootless (scheme : String) (text : String)
  deriving DecidableEq, Repr, Inhabited

namespace Uri

/-- A file address: host, encoded path segments, and the query and fragment with their marks. -/
def file (host : String) (segments : List String) (suffix : String) : Uri :=
  .located "file" (some ⟨"", host, ""⟩) segments suffix

/-- What stands before the path.  Without an authority, a path that begins with two slashes is set off from the
scheme, so that it is not read as one. -/
def renderAuthority (segments : List String) : Option Authority → String
  | some authority => "//" ++ authority.user ++ authority.host ++ authority.port
  | none => if segments.head? = some "" ∧ 1 < segments.length then "/." else ""

/-- The text of a path. -/
def renderPath (segments : List String) : String :=
  if segments = [] then "" else "/" ++ "/".intercalate segments

/-- The text of an address. -/
def render : Uri → String
  | .located scheme authority segments suffix =>
    scheme ++ ":" ++ renderAuthority segments authority ++ renderPath segments ++ suffix
  | .rootless scheme text => scheme ++ ":" ++ text

/-- The segment of a file address for a component below the root. -/
def segment : Component → String
  | .name n => String.ofList (Percent.encode Percent.inName n)
  | .up => ".."
  | .root => ""
  | .here => "."

/-- The address of a directory given by an absolute path. -/
def ofDirectory? (p : Path) : Option Uri :=
  if p.isAbsolute then some (.file "" ((p.components.drop 1).map segment ++ [""]) "") else none

/-- Removes one empty segment at the end of a path that has others. -/
def dropTrailingSlash (segments : List String) : List String :=
  if segments.getLast? = some "" ∧ 1 < segments.length then segments.dropLast else segments

/-- Whether an authority stands for this machine; an address without one does. -/
def isLocal : Option Authority → Bool
  | some authority => authority.host == "" || authority.host == "localhost"
  | none => true

/-- The path an address leads to.  Its scheme is not looked at, neither are user, port, query and fragment.  A
slash at the end, which makes no difference to the components, is left out. -/
def toPath? : Uri → Option Path
  | .located _ authority segments _ =>
    if segments ≠ [] ∧ isLocal authority then
      some (.ofNames ((dropTrailingSlash segments).map fun s => Percent.decode s.toList))
    else none
  | .rootless _ _ => none

end Uri

end LibraryPaths
