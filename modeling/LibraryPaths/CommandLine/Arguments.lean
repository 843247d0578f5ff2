import LibraryPaths.Path.Basic

/-!
# Command line arguments

The command line asks for the version, for help, or for a scan.  A scan's options take their value from
behind an equals sign or from the next argument; a value taken from the next argument does not begin with
a hyphen, unless it is a single one.  Behind `--` every argument is a file.  Values are never empty.
-/

set_option autoImplicit false

namespace LibraryPaths

/-- What a scan is asked to do. -/
structure ScanRequest where
  /-- The workspace root, if one was given. -/
  root : Option Path := none
  /-- Directories that hold plugins. -/
  packages : List Path := []
  /-- The configuration file, if one was given. -/
  config : Option Path := none
  /-- The files to scan; none stands for every source file below the root. -/
  files : List Path := []
  deriving DecidableEq, Repr

/-- What the command line asks for. -/
inductive Request where
  | version
  | help
  | scanHelp
  | helpHelp
  | scan (request : ScanRequest)
  deriving DecidableEq, Repr

/-- Why a command line could not be read. -/
inductive UsageError where
  | missingCommand
  | unknownCommand (name : String)
  | unknownOption (name : String)
  | unexpectedValue (option : String)
  | missingValue (option : String)
  | emptyValue (option : String)
  | repeatedOption (option : String)
  deriving DecidableEq, Repr

/-- The wording of an error. -/
def UsageError.message : UsageError → String
  | .missingCommand => "a command is required"
  | .unknownCommand name => "unrecognized command '" ++ name ++ "'"
  | .unknownOption name => "unexpected argument '" ++ name ++ "' found"
  | .unexpectedValue option => "'" ++ option ++ "' takes no value"
  | .missingValue option => "a value is required for '" ++ option ++ "'"
  | .emptyValue option => "the value of '" ++ option ++ "' is empty"
  | .repeatedOption option => "'" ++ option ++ "' cannot be used multiple times"

/-- An option of a scan. -/
inductive ScanOption where
  | root
  | packages
  | config
  deriving DecidableEq, Repr

namespace ScanOption

/-- All options. -/
def all : List ScanOption := [.root, .packages, .config]

/-- The name of an option. -/
def name : ScanOption → String
  | .root => "--root"
  | .packages => "--packages"
  | .config => "--config"

/-- The option with a name. -/
def ofName? (name : String) : Option ScanOption := all.find? (·.name == name)

end ScanOption

namespace ScanRequest

/-- The request with the value of an option.  Only the directories of plugins may be given more than
once. -/
def set (request : ScanRequest) (option : ScanOption) (value : String) :
    Except UsageError ScanRequest :=
  if value.isEmpty then .error (.emptyValue option.name)
  else
    let path := Path.ofString value
    match option with
    | .packages => .ok { request with packages := request.packages ++ [path] }
    | .root =>
      if request.root.isSome then .error (.repeatedOption option.name)
      else .ok { request with root := some path }
    | .config =>
      if request.config.isSome then .error (.repeatedOption option.name)
      else .ok { request with config := some path }

/-- The request with one more file. -/
def addFile (request : ScanRequest) (file : String) : Except UsageError ScanRequest :=
  if file.isEmpty then .error (.emptyValue "FILES")
  else .ok { request with files := request.files ++ [.ofString file] }

end ScanRequest

namespace Request

/-- Whether an argument is a plain value: it does not begin with a hyphen, or is a single one. -/
def isPlain (argument : String) : Bool :=
  argument == "-" || argument.toList.head? != some '-'

/-- Whether an argument is a group of short options that begins with a letter. -/
def isShort (letter : Char) (argument : String) : Bool := ['-', letter].isPrefixOf argument.toList

/-- An argument divided at its first equals sign. -/
def divide (argument : String) : String × Option String :=
  let name := argument.toList.takeWhile (· != '=')
  match argument.toList.drop name.length with
  | [] => (argument, none)
  | _ :: value => (String.ofList name, some (String.ofList value))

/-- Reads the arguments of a scan behind some that have been read. -/
def readScan (request : ScanRequest) : List String → Except UsageError Request
  | [] => .ok (.scan request)
  | argument :: rest =>
    if argument = "--" then (rest.foldlM ScanRequest.addFile request).map Request.scan
    else if isPlain argument then
      match request.addFile argument with
      | .ok request => readScan request rest
      | .error error => .error error
    else if argument = "--help" ∨ isShort 'h' argument then .ok .scanHelp
    else
      match ScanOption.ofName? (divide argument).1, (divide argument).2, rest with
      | none, _, _ => .error (.unknownOption argument)
      | some option, some value, rest =>
        match request.set option value with
        | .ok request => readScan request rest
        | .error error => .error error
      | some option, none, value :: rest =>
        if isPlain value then
          match request.set option value with
          | .ok request => readScan request rest
          | .error error => .error error
        else .error (.missingValue option.name)
      | some option, none, [] => .error (.missingValue option.name)

/-- Reads the arguments of the help command: the name of one command at most.  An argument that begins with
a hyphen is no exception. -/
def readHelp : List String → Except UsageError Request
  | [] => .ok .help
  | ["scan"] => .ok .scanHelp
  | ["help"] => .ok .helpHelp
  | names => .error (.unknownCommand (" ".intercalate names))

/-- Reads a command line. -/
def read : List String → Except UsageError Request
  | [] => .error .missingCommand
  | first :: rest =>
    if first = "scan" then readScan {} rest
    else if first = "help" then readHelp rest
    else if first = "--version" ∨ isShort 'V' first then .ok .version
    else if first = "--help" ∨ isShort 'h' first then .ok .help
    else if isPlain first then .error (.unknownCommand first)
    else .error (.unknownOption first)

end Request

end LibraryPaths
