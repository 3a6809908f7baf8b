import SqlAssembler.QueryFile.Calls

/-!
# Failures of the command line

The first six are mistakes in the arguments; the others name the file that
could not be used, or come from the query itself.
-/

namespace SqlAssembler
namespace CommandLine

inductive Fault where
  | unknownCommand (name : String)
  | missingValue (option : String)
  | badAggregate (text : String)
  | unknownOption (option : String)
  | unexpectedArgument (text : String)
  | missingQueryFile
  | settingsFile (path : String) (error : Error)
  | unreadableQueryFile (path reason : String)
  | malformedQueryFile (path : String)
  | query (fault : QueryFault)

/-- A query file that does not follow its format is reported without further
detail. -/
def Fault.message : Fault → String
  | unknownCommand name => s!"unknown command: {name}"
  | missingValue option => s!"{option} requires a value"
  | badAggregate text => s!"--aggregate expects FN:COLUMN, got '{text}'"
  | unknownOption option => s!"unknown option: {option}"
  | unexpectedArgument text => s!"unexpected argument: {text}"
  | missingQueryFile =>
      "missing query file (usage: sqlweave render <query.toml>)"
  | settingsFile path error =>
      s!"failed to load config {path}: " ++ error.message
  | unreadableQueryFile path reason =>
      s!"failed to read query file {path}: {reason}"
  | malformedQueryFile path => s!"failed to parse query file {path}: <toml>"
  | query fault => fault.message

end CommandLine
end SqlAssembler
