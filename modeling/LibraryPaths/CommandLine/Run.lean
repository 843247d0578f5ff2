import LibraryPaths.CommandLine.Scan

/-!
# The command line

A command line is answered by an exit code and the texts written to the two output streams.
-/

set_option autoImplicit false

namespace LibraryPaths.CommandLine

/-- What a command leaves behind. -/
structure Outcome where
  code : Nat
  output : String
  errors : String
  deriving DecidableEq, Repr

/-- The name of the program and its version. -/
def versionText : String := "lsp-libsync 0.1.0\n"

/-- The general help. -/
def helpText : String :=
  "Keeps language server library paths in sync with required modules\n\n" ++
  "Usage: lsp-libsync <COMMAND>\n\n" ++
  "Commands:\n" ++
  "  scan  Scan a project and print the library settings its modules need\n" ++
  "  help  Print this message or the help of the given subcommand(s)\n\n" ++
  "Options:\n" ++
  "  -h, --help     Print help\n" ++
  "  -V, --version  Print version\n"

/-- The help on scans. -/
def scanHelpText : String :=
  "Scan a project and print the library settings its modules need\n\n" ++
  "Usage: lsp-libsync scan [OPTIONS] [FILES]...\n\n" ++
  "Arguments:\n" ++
  "  [FILES]...  Files to scan instead of every `.lua` file under the root\n\n" ++
  "Options:\n" ++
  "      --root <ROOT>          Workspace root [default: .]\n" ++
  "      --packages <PACKAGES>  Directory holding one plugin per subdirectory (repeatable)\n" ++
  "      --config <CONFIG>      JSON configuration file\n" ++
  "  -h, --help                 Print help\n"

/-- The help on the help command. -/
def helpHelpText : String :=
  "Print this message or the help of the given subcommand(s)\n\n" ++
  "Usage: lsp-libsync help [COMMAND]...\n\n" ++
  "Arguments:\n" ++
  "  [COMMAND]...  Print help for the subcommand(s)\n"

/-- The report of a scan that failed. -/
def errorText (error : ScanError) : String :=
  "Error: " ++ error.message ++
    match error.cause? with
    | some cause => "\n\nCaused by:\n    " ++ cause ++ "\n"
    | none => "\n"

/-- Answers a request. -/
def answer (fs : FileSystem) : Request → Outcome
  | .version => ⟨0, versionText, ""⟩
  | .help => ⟨0, helpText, ""⟩
  | .scanHelp => ⟨0, scanHelpText, ""⟩
  | .helpHelp => ⟨0, helpHelpText, ""⟩
  | .scan request =>
    match request.run fs with
    | .ok settings => ⟨0, settings.render ++ "\n", ""⟩
    | .error error => ⟨1, "", errorText error⟩

/-- Answers a command line. -/
def run (fs : FileSystem) (arguments : List String) : Outcome :=
  match Request.read arguments with
  | .ok request => answer fs request
  | .error error => ⟨2, "", "error: " ++ error.message ++ "\n"⟩

end LibraryPaths.CommandLine
