import SqlAssembler.CommandLine.Arguments
import SqlAssembler.CommandLine.Files
import SqlAssembler.SettingsFile

/-!
# Rendering query files

The settings are loaded first, from the file that was asked for or else from the
usual one if it is there; then the query file is read. The statement is written
on one line and its values, as a JSON array, on the next.
-/

namespace SqlAssembler
namespace CommandLine

def usualSettingsPath : String :=
  "sqlweave.toml"

def loadSettings (files : Files) (path : String) : Except Fault Settings :=
  let file : Except Error SettingsFile :=
    match (files path).content with
    | .error reason => .error (.config (.unreadable path reason))
    | .ok content => SettingsFile.read content
  (file.map SettingsFile.settings).mapError (.settingsFile path)

def chooseSettings (files : Files) : Option String → Except Fault Settings
  | some path => loadSettings files path
  | none =>
      if files usualSettingsPath = .missing then .ok .standard
      else loadSettings files usualSettingsPath

def loadQuery (files : Files) (path : String) : Except Fault QueryFile :=
  match (files path).content with
  | .error reason => .error (.unreadableQueryFile path reason)
  | .ok content =>
      match QueryFile.read? content with
      | none => .error (.malformedQueryFile path)
      | some file => .ok file

def RenderRequest.statement (request : RenderRequest) (files : Files) :
    Except Fault Statement := do
  let settings ← chooseSettings files request.config
  let file ← loadQuery files request.query
  (file.statement settings request.aggregate).mapError .query

def output (statement : Statement) : String :=
  statement.sql ++ "\n" ++ writeParams statement.params ++ "\n"

def helpLines : List String :=
  ["sqlweave - render parameterized MySQL statements from query files",
    "",
    "USAGE:",
    "  sqlweave render [OPTIONS] <QUERY_FILE>",
    "  sqlweave help",
    "",
    "RENDER OPTIONS:",
    "  --config <FILE>         Config file path (default: sqlweave.toml, used if present)",
    "  --aggregate <FN:COLUMN> Render the aggregate form, e.g. COUNT_DISTINCT:color",
    "  -h, --help              Print help",
    "",
    "The SQL is printed on the first line, the JSON array of params on the second."]

def helpText : String :=
  String.join (helpLines.map (· ++ "\n"))

def run (files : Files) (arguments : List String) : Except Fault String := do
  match ← Command.read arguments with
  | .help => return helpText
  | .render request => return output (← request.statement files)

end CommandLine
end SqlAssembler
