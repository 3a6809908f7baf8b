import SqlAssembler.CommandLine.Fault

/-!
# Arguments

The first argument names the command. The arguments of `render` are read from
left to right: an option may have its value attached by an equals sign or in the
next argument, later values replace earlier ones, and a request for help ends
the reading at once. An attached value loses every repetition of its option in
front of it.
-/

namespace SqlAssembler
namespace CommandLine

structure RenderRequest where
  config : Option String
  aggregate : Option (String × String)
  query : String
  deriving DecidableEq, Repr

inductive Command where
  | help
  | render (request : RenderRequest)
  deriving DecidableEq, Repr

/-!
## Single arguments
-/

inductive Token where
  | help
  | config (value : Option String)
  | aggregate (value : Option String)
  | unknown
  | path
  deriving DecidableEq, Repr

/-- Drops a text from the front as often as it stands there. -/
def dropRepeated (lead cs : List Char) : List Char :=
  if lead ≠ [] ∧ lead <+: cs then dropRepeated lead (cs.drop lead.length)
  else cs
  termination_by cs.length
  decreasing_by
    rename_i h
    have hlead := List.length_pos_iff.2 h.1
    have hle := h.2.length_le
    simp only [List.length_drop]
    omega

def attached? (option text : String) : Option String :=
  let lead := option.toList ++ ['=']
  if lead <+: text.toList then
    some (String.ofList (dropRepeated lead text.toList))
  else none

def Token.ofText (text : String) : Token :=
  if text = "-h" ∨ text = "--help" then help
  else if text = "--config" then config none
  else if text = "--aggregate" then aggregate none
  else
    match attached? "--config" text, attached? "--aggregate" text with
    | some value, _ => config (some value)
    | none, some value => aggregate (some value)
    | none, none => if text.toList.head? = some '-' then unknown else path

def readAggregate (text : String) : Except Fault (String × String) :=
  let function := text.toList.takeWhile (· ≠ ':')
  let column := (text.toList.dropWhile (· ≠ ':')).drop 1
  if function.isEmpty || column.isEmpty then .error (.badAggregate text)
  else .ok (String.ofList function, String.ofList column)

/-!
## Commands
-/

structure Options where
  config : Option String
  aggregate : Option (String × String)
  query : Option String
  deriving DecidableEq, Repr

namespace Options

def none : Options :=
  ⟨.none, .none, .none⟩

def command (options : Options) : Except Fault Command :=
  match options.query with
  | .none => .error .missingQueryFile
  | some query => .ok (.render ⟨options.config, options.aggregate, query⟩)

def setAggregate (options : Options) (text : String) : Except Fault Options :=
  (readAggregate text).map fun aggregate =>
    { options with aggregate := some aggregate }

def setQuery (options : Options) (path : String) : Except Fault Options :=
  match options.query with
  | .none => .ok { options with query := some path }
  | some _ => .error (.unexpectedArgument path)

def read (options : Options) : List String → Except Fault Command
  | [] => options.command
  | text :: rest =>
      match Token.ofText text with
      | .help => .ok .help
      | .config (some path) => read { options with config := some path } rest
      | .aggregate (some value) => do read (← options.setAggregate value) rest
      | .config .none =>
          match rest with
          | [] => .error (.missingValue text)
          | path :: rest => read { options with config := some path } rest
      | .aggregate .none =>
          match rest with
          | [] => .error (.missingValue text)
          | value :: rest => do read (← options.setAggregate value) rest
      | .unknown => .error (.unknownOption text)
      | .path => do read (← options.setQuery text) rest

end Options

def Command.read : List String → Except Fault Command
  | [] => .ok .help
  | name :: rest =>
      if name = "-h" ∨ name = "--help" ∨ name = "help" then .ok .help
      else if name = "render" then Options.none.read rest
      else .error (.unknownCommand name)

end CommandLine
end SqlAssembler
