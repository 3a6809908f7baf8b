/-!
# Files

What reading a path gives. A list of files held in memory is read as a directory
that holds them and nothing else: its paths are relative, and a dot or an empty
step stays where it is.
-/

namespace SqlAssembler
namespace CommandLine

inductive FileState where
  | missing
  | unreadable (reason : String)
  | text (content : String)
  deriving DecidableEq, Repr

abbrev Files := String → FileState

namespace FileState

def missingReason : String :=
  "No such file or directory (os error 2)"

def isDirectory : FileState :=
  unreadable "Is a directory (os error 21)"

def notDirectory : FileState :=
  unreadable "Not a directory (os error 20)"

def content : FileState → Except String String
  | missing => .error missingReason
  | unreadable reason => .error reason
  | text content => .ok content

end FileState

namespace Files

def steps (path : String) : List String :=
  (path.splitOn "/").filter fun step => step ≠ "" ∧ step ≠ "."

/-- Reads on from a directory of the list. A path that leaves the list upwards
finds nothing. -/
def walk (files : List (List String × String)) (here : List String) :
    List String → FileState
  | [] => .isDirectory
  | step :: rest =>
      if step = "" ∨ step = "." then walk files here rest
      else if step = ".." then
        if here.isEmpty then .missing else walk files here.dropLast rest
      else
        let there := here ++ [step]
        match files.find? fun file => file.1 = there with
        | some (_, content) =>
            if rest.isEmpty then .text content else .notDirectory
        | none =>
            if files.any fun file => there <+: file.1 then walk files there rest
            else .missing

def ofList (files : List (String × String)) : Files := fun path =>
  if path.toList.head? = none ∨ path.toList.head? = some '/' then .missing
  else
    walk (files.map fun (name, content) => (steps name, content)) []
      (path.splitOn "/")

end Files
end CommandLine
end SqlAssembler
