import LibraryPaths.CommandLine.Manifest
import LibraryPaths.CommandLine.Run

/-!
# The program

The program answers its command line.  The files it may use are described by a manifest on standard input.
-/

set_option autoImplicit false

namespace LibraryPaths

/-- Reads a stream to its end. -/
partial def readAllLines (input : IO.FS.Stream) (read : String) : IO String := do
  let line ← input.getLine
  if line.isEmpty then return read else readAllLines input (read ++ line)

/-- Writes an outcome to the output streams and gives the exit code. -/
def report (outcome : CommandLine.Outcome) : IO UInt32 := do
  (← IO.getStdout).putStr outcome.output
  (← IO.getStderr).putStr outcome.errors
  return UInt32.ofNat outcome.code

end LibraryPaths

/-- Answers the command line. -/
def main (arguments : List String) : IO UInt32 := do
  let manifest ← LibraryPaths.readAllLines (← IO.getStdin) ""
  match LibraryPaths.Manifest.read? manifest with
  | some files => LibraryPaths.report (LibraryPaths.CommandLine.run files arguments)
  | none =>
    LibraryPaths.report ⟨2, "", "error: the manifest on standard input cannot be read\n"⟩
