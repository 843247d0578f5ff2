import LibraryPaths.Uri.Basic

/-!
# Reading addresses

An address begins with a scheme and a colon.  How the rest is read depends on the scheme:

* a `file` address need not have a host, and the host `localhost` is dropped; empty segments at the beginning
  of its path are dropped too;
* a web address, of `http` and its like, has a host in any case, and the usual port is dropped;
* any other address has a host behind two slashes only, and if its path does not begin with a slash, it has no
  segments at all.

The first two are *special*: backslashes count as slashes, and hosts are names.  Names are decoded and written
in lower case; numbers and letters outside ASCII are left as they are, like hosts in brackets.  In every path
with segments `.` and `..` are resolved, also where their dots are percent-encoded, and characters that may not
stand in their part are percent-encoded.  Controls and spaces around an address and line breaks and tabs in it
are ignored.
-/

set_option autoImplicit false

namespace LibraryPaths.Uri

/-- How an address is read. -/
inductive Kind where
  | file
  /-- A web address, with the usual port of its scheme. -/
  | web (port : Nat)
  | plain
  deriving DecidableEq

namespace Kind

/-- The kind of the addresses of a scheme. -/
def ofScheme (scheme : List Char) : Kind :=
  match String.ofList scheme with
  | "file" => .file
  | "http" | "ws" => .web 80
  | "https" | "wss" => .web 443
  | "ftp" => .web 21
  | _ => .plain

/-- Whether addresses are special. -/
def isSpecial (kind : Kind) : Bool := kind != .plain

/-- Whether a character separates path segments. -/
def isSlash (kind : Kind) (c : Char) : Bool := c == '/' || kind.isSpecial && c == '\\'

end Kind

/-- Whether a character is ignored around an address. -/
def isEdge (c : Char) : Bool := c.toNat ≤ 0x20

/-- The text of an address without what is ignored. -/
def tidy (text : List Char) : List Char :=
  let inner := ((text.dropWhile isEdge).reverse.dropWhile isEdge).reverse
  inner.filter fun c => c != '\t' && c != '\n' && c != '\r'

/-- The scheme in lower case and what follows its colon. -/
def scheme? (text : List Char) : Option (List Char × List Char) :=
  let name := text.takeWhile fun c => c.isAlphanum || c == '+' || c == '-' || c == '.'
  match name, text.drop name.length with
  | first :: _, ':' :: rest => if first.isAlpha then some (name.map Char.toLower, rest) else none
  | _, _ => none

/-- Whether a character ends the path. -/
def endsPath (c : Char) : Bool := c == '?' || c == '#'

/-- A text with the characters that may not stand in it encoded. -/
def encodeText (reserved : UInt8 → Bool) (text : List Char) : List Char :=
  Percent.encode reserved (Utf8.encode text)

/-! ## Paths -/

/-- A segment with each encoded dot written as a dot. -/
def plainDots : List Char → List Char
  | '%' :: '2' :: 'e' :: rest => '.' :: plainDots rest
  | '%' :: '2' :: 'E' :: rest => '.' :: plainDots rest
  | c :: rest => c :: plainDots rest
  | [] => []

/-- Resolves the segments `.` and `..`; `done` holds the segments before them.  At the end of a path they
leave an empty segment. -/
def resolveDots (done : List (List Char)) : List (List Char) → List (List Char)
  | [] => done
  | segment :: rest =>
    if plainDots segment = ['.', '.'] then
      resolveDots (if rest = [] then done.dropLast ++ [[]] else done.dropLast) rest
    else if plainDots segment = ['.'] then
      resolveDots (if rest = [] then done ++ [[]] else done) rest
    else resolveDots (done ++ [encodeText Percent.inPath segment]) rest

/-- Drops the empty segments before the last one. -/
def dropEmptyFront : List (List Char) → List (List Char)
  | [] :: segment :: rest => dropEmptyFront (segment :: rest)
  | segments => segments

/-- The segments of a path, given by the text behind its first slash. -/
def readSegments (kind : Kind) (path : List Char) : List String :=
  let segments := resolveDots [] (path.splitOnP kind.isSlash)
  (if kind = .file then dropEmptyFront segments else segments).map String.ofList

/-- The query and the fragment, each with its mark. -/
def readSuffix (kind : Kind) : List Char → List Char
  | '?' :: rest =>
    let query := rest.takeWhile (· != '#')
    '?' :: encodeText (if kind.isSpecial then Percent.inSpecialQuery else Percent.inQuery) query ++
      match rest.drop query.length with
      | '#' :: fragment => '#' :: encodeText Percent.inFragment fragment
      | _ => []
  | '#' :: fragment => '#' :: encodeText Percent.inFragment fragment
  | _ => []

/-- An address with path segments, given by its scheme, its authority and what follows that.  Only a plain
address can be without a path. -/
def readLocated (kind : Kind) (scheme : List Char) (authority : Option Authority) (rest : List Char) : Uri :=
  let path := rest.takeWhile (!endsPath ·)
  let segments :=
    match path with
    | [] => if kind.isSpecial then readSegments kind [] else []
    | c :: more => readSegments kind (if kind.isSlash c then more else path)
  .located (String.ofList scheme) authority segments
    (String.ofList (readSuffix kind (rest.drop path.length)))

/-- An address without path segments, given by its scheme and what follows the colon. -/
def readRootless (scheme : List Char) (rest : List Char) : Uri :=
  let path := rest.takeWhile (!endsPath ·)
  .rootless (String.ofList scheme)
    (String.ofList (encodeText Percent.isControl path ++ readSuffix .plain (rest.drop path.length)))

/-! ## Authorities -/

/-- The characters that may not stand in any host. -/
def notInHost : List Char :=
  ['\x00', '\t', '\n', '\r', ' ', '#', '/', ':', '<', '>', '?', '@', '[', '\\', ']', '^', '|']

/-- The name of a machine, decoded and in lower case. -/
def readName? (text : List Char) : Option (List Char) := do
  let name ← Utf8.decode? (Percent.decode text)
  if name = [] ∨ name.any (fun c => c.toNat < 0x20 || c == '%' || c == '\x7f' || notInHost.contains c) then none
  else some (name.map Char.toLower)

/-- The host of an address in its usual form. -/
def readHost? (kind : Kind) (text : List Char) : Option (List Char) :=
  if text.head? = some '[' then if text.getLast? = some ']' then some text else none
  else
    match kind with
    | .file =>
      if text = [] then some []
      else (readName? text).map fun name => if name = "localhost".toList then [] else name
    | .web _ => readName? text
    | .plain => if text.any notInHost.contains then none else some (encodeText Percent.isControl text)

/-- The text of a host, which a colon ends unless it stands in brackets. -/
def hostText (inBrackets : Bool) : List Char → List Char
  | [] => []
  | c :: rest =>
    if c = ':' ∧ !inBrackets then []
    else c :: hostText (if c = '[' then true else if c = ']' then false else inBrackets) rest

/-- The user and the password, with the mark behind them. -/
def readUser (text : List Char) : List Char :=
  let name := text.takeWhile (· != ':')
  let password := text.drop (name.length + 1)
  let user := encodeText Percent.inUser name ++
    if password = [] then [] else ':' :: encodeText Percent.inUser password
  if user = [] then [] else user ++ ['@']

/-- The port, given by the text behind its colon, and what follows it.  The usual port is left out. -/
def readPort? (kind : Kind) (text : List Char) : Option (String × List Char) :=
  let digits := text.takeWhile Char.isDigit
  let rest := text.drop digits.length
  let port := digits.foldl (fun n c => 10 * n + (c.toNat - 48)) 0
  if 65535 < port ∨ rest.head?.any (fun c => c != '/' && c != '\\' && !endsPath c) then none
  else some (if digits = [] ∨ kind = .web port then "" else ":" ++ toString port, rest)

/-- The authority of an address that is no file address, given by the text behind the slashes, and what follows
it.  A user is everything before the last mark; neither a user nor a port stands without a host. -/
def readAuthority? (kind : Kind) (text : List Char) : Option (Authority × List Char) := do
  let area := text.takeWhile fun c => !kind.isSlash c && !endsPath c
  let rest := text.drop area.length
  let place := (area.reverse.takeWhile (· != '@')).reverse
  let user := readUser (area.take (area.length - place.length - 1))
  let hostArea := hostText false place
  let host ← readHost? kind hostArea
  if host = [] ∧ (user ≠ [] ∨ hostArea ≠ place ∨ area = ['@'] ∧ rest ≠ []) then none
  else
    let (port, rest) ←
      match place.drop hostArea.length with
      | ':' :: more => readPort? kind (more ++ rest)
      | _ => some ("", rest)
    some (⟨String.ofList user, String.ofList host, port⟩, rest)

/-- What follows the colon of a file address. -/
def readFile? (rest : List Char) : Option Uri :=
  let isSlash := Kind.file.isSlash
  let withHost (host rest : List Char) : Uri :=
    readLocated .file "file".toList (some ⟨"", String.ofList host, ""⟩) rest
  match rest with
  | a :: b :: more =>
    if isSlash a && isSlash b then
      let host := more.takeWhile fun c => !isSlash c && !endsPath c
      (readHost? .file host).map (withHost · (more.drop host.length))
    else some (withHost [] rest)
  | _ => some (withHost [] rest)

/-- Reads an address. -/
def read? (text : String) : Option Uri := do
  let (scheme, rest) ← scheme? (tidy text.toList)
  let kind := Kind.ofScheme scheme
  let behindSlashes (rest : List Char) : Option Uri := do
    let (authority, rest) ← readAuthority? kind rest
    some (readLocated kind scheme (some authority) rest)
  match kind, rest with
  | .file, rest => readFile? rest
  | .web _, rest => behindSlashes (rest.dropWhile kind.isSlash)
  | .plain, '/' :: '/' :: rest => behindSlashes rest
  | .plain, '/' :: _ => some (readLocated kind scheme none rest)
  | .plain, rest => some (readRootless scheme rest)

end LibraryPaths.Uri
