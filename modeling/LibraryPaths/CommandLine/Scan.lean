import LibraryPaths.Client.SettingsText
import LibraryPaths.CommandLine.Arguments
import LibraryPaths.Config.Reader
import LibraryPaths.Ignore.Sources
import LibraryPaths.Session.Attach
import LibraryPaths.Session.Reconcile

/-!
# Scanning a workspace once

A scan opens the files of a workspace as buffers of one client that has the root as its only folder,
attaches them all and reconciles.  Its answer is the settings object the client receives for that folder,
or one with an empty list if it receives nothing.
-/

set_option autoImplicit false

namespace LibraryPaths

/-- Why a scan could not be made. -/
inductive ScanError where
  | config (error : ConfigError)
  | rootNotFound (root : Path) (error : IoError)
  | noAddress (root : Path)
  | unreadable (file : Path) (error : IoError)
  deriving DecidableEq, Repr

/-- The wording of an error. -/
def ScanError.message : ScanError → String
  | .config error => error.message
  | .rootNotFound root _ => "Workspace root " ++ root.toText ++ " not found"
  | .noAddress root => "Cannot build a URI for " ++ root.toText
  | .unreadable file _ => "Failed to read " ++ file.toText

/-- The wording of what is behind an error. -/
def ScanError.cause? : ScanError → Option String
  | .config error => some error.cause
  | .rootNotFound _ error => some error.message
  | .noAddress _ => none
  | .unreadable _ error => some error.message

namespace ScanRequest

/-- The configuration of a scan. -/
def loadConfig (fs : FileSystem) (request : ScanRequest) : Except ScanError Config :=
  match request.config with
  | none => .ok {}
  | some p => (Config.load fs p).mapError .config

/-- The root of the workspace; the working directory if none was given. -/
def givenRoot (request : ScanRequest) : Path := request.root.getD ⟨[dot]⟩

/-- The root of the workspace in canonical form. -/
def locateRoot (fs : FileSystem) (request : ScanRequest) : Except ScanError Path :=
  (fs.canonical request.givenRoot).mapError (.rootNotFound request.givenRoot)

/-- The name of the workspace folder with a root. -/
def folderName (root : Path) : String :=
  match root.fileName? with
  | some name => Path.toText ⟨name⟩
  | none => root.toText

/-- The workspace folder with a root. -/
def workspaceFolder (root : Path) : Except ScanError Folder :=
  match Uri.ofDirectory? root with
  | some uri => .ok ⟨folderName root, uri⟩
  | none => .error (.noAddress root)

/-- The client of a scan. -/
def client (config : Config) (folder : Folder) : Client := ⟨1, config.clientName, some [folder]⟩

/-- The session a scan begins with. -/
def session (fs : FileSystem) (request : ScanRequest) (config : Config) (client : Client) : Session :=
  .start config
    { files := fs
      loaded := []
      packages := .ofRoots request.packages
      buffers := .empty
      clients := .ofList [client] }

/-- The files of a scan. -/
def filesToScan (fs : FileSystem) (request : ScanRequest) (root : Path) : List Path :=
  if request.files.isEmpty then
    match fs.locate root with
    | .ok location => fs.sourceFiles location
    | .error _ => []
  else request.files

/-- The text of a file and its path in canonical form. -/
def openFile (fs : FileSystem) (file : Path) : Except ScanError (Path × String) :=
  match fs.readText file with
  | .ok text => .ok ((fs.canonical file).toOption.getD file, text)
  | .error error => .error (.unreadable file error)

/-- The session with a file opened as a buffer and attached. -/
def attachFile (client : Client) (session : Session) (buffer : Nat) (file : Path × String) : Session :=
  let buffers := session.env.buffers.load buffer (some file.1) file.2
  (Session.attach 0 { session with env := { session.env with buffers } } client buffer).1

/-- The session with some files attached as buffers that are numbered from a number on. -/
def attachFiles (client : Client) (session : Session) (number : Nat) :
    List (Path × String) → Session
  | [] => session
  | file :: files => attachFiles client (attachFile client session number file) (number + 1) files

/-- What the client of a session was sent last for a folder; nothing sent stands for an empty list. -/
def answer (session : Session) (client : Client) (folder : Folder) : Settings :=
  ((session.env.clients.last? client.id).bind (·.scoped? folder.uri)).getD
    (Update.settings ⟨session.tracker.config.sectionName, []⟩ [])

/-- Makes a scan. -/
def run (fs : FileSystem) (request : ScanRequest) : Except ScanError Settings := do
  let config ← request.loadConfig fs
  let root ← request.locateRoot fs
  let folder ← workspaceFolder root
  let client := client config folder
  let files ← (request.filesToScan fs root).mapM (openFile fs)
  let attached := attachFiles client (request.session fs config client) 1 files
  return answer (attached.reconcile 0).1 client folder

end ScanRequest

end LibraryPaths
