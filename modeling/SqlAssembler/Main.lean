import SqlAssembler.CommandLine.Render

/-!
# The program

Reads the files that the arguments name, and prints what the command line
answers. A failure is printed to the error stream.
-/

namespace SqlAssembler
namespace CommandLine

def notUnicode : String :=
  "stream did not contain valid UTF-8"

def failureReason : IO.Error → String
  | .permissionDenied .. => "Permission denied (os error 13)"
  | .inappropriateType .. => "Is a directory (os error 21)"
  | error => toString error

def readFile (path : String) : IO FileState := do
  try
    let bytes ← IO.FS.readBinFile path
    return (String.fromUTF8? bytes).elim (.unreadable notUnicode) .text
  catch
    | .noFileOrDirectory .. => return .missing
    | error => return .unreadable (failureReason error)

def readFiles (arguments : List String) : IO Files := do
  match Command.read arguments with
  | .ok (.render request) =>
      let config := request.config.getD usualSettingsPath
      let configState ← readFile config
      let queryState ← readFile request.query
      return fun path => if path = config then configState else queryState
  | _ => return fun _ => .missing

end CommandLine
end SqlAssembler

open SqlAssembler CommandLine in
def main (arguments : List String) : IO UInt32 := do
  match run (← readFiles arguments) arguments with
  | .ok text =>
      IO.print text
      return 0
  | .error fault =>
      IO.eprintln fault.message
      return 1
