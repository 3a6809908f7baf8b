import SqlAssembler.Ident
import SqlAssembler.Settings
import SqlAssembler.Text.Blank

/-!
# Columns

A column is an identifier, or an identifier followed by an arrow and a path of
keys inside a JSON column. After the first arrow, arrows and dots both separate
keys, and `->>` is another spelling of the first arrow. The value at a path is
always extracted as text. A projection may also be a wildcard or a call of an
allowed function, and may end in ` AS label`.
-/

namespace SqlAssembler

open Text

inductive Column where
  | wildcard (table : Option Ident)
  | plain (ident : Ident) (label : Option String)
  | json (base : Ident) (path : List String) (label : Option String)
  | call (text : String) (label : Option String)
  deriving DecidableEq, Repr

namespace Column

/-!
## Writing
-/

def isIndexKey (key : String) : Bool :=
  key.toList.all Char.isDigit

def keySql (key : String) : String :=
  if isIndexKey key then s!"[{key}]" else s!".{key}"

def pathSql (path : List String) : String :=
  "$" ++ String.join (path.map keySql)

def sql : Column → String
  | wildcard none => "*"
  | wildcard (some table) => table.sql ++ ".*"
  | plain ident _ => ident.sql
  | json base path _ => base.sql ++ "->>'" ++ pathSql path ++ "'"
  | call text _ => text

/-- The label written by the caller, or the one that a JSON extraction gets by
itself. -/
def writtenLabel : Column → Option String
  | wildcard _ => none
  | plain _ label | call _ label => label
  | json base path label =>
      some (label.getD (base.name ++ "_" ++ "_".intercalate path))

def labelSql (label : String) : String :=
  if isPlainName label.toList then label else enclosed backtick label

def projectionSql (column : Column) : String :=
  match column.writtenLabel with
  | some label => column.sql ++ " AS " ++ labelSql label
  | none => column.sql

/-- The name of the column in a result row, where it is known. -/
def resultKey : Column → Option String
  | wildcard _ => none
  | plain ident label => some (label.getD ident.name)
  | column => column.writtenLabel

def hasLabel : Column → Bool
  | wildcard _ => false
  | plain _ label | json _ _ label | call _ label => label.isSome

/-!
## Reading
-/

/-- The text before and after the first arrow. -/
def cutArrow : List Char → Option (List Char × List Char)
  | [] => none
  | [_] => none
  | c :: d :: rest =>
      if c = '-' ∧ d = '>' then some ([], rest)
      else
        (cutArrow (d :: rest)).map fun (before, after) => (c :: before, after)

def consFirst (c : Char) : List (List Char) → List (List Char)
  | [] => [[c]]
  | first :: others => (c :: first) :: others

def splitKeys : List Char → List (List Char)
  | [] => [[]]
  | [c] => if c = '.' then [[], []] else [[c]]
  | c :: d :: rest =>
      if c = '-' ∧ d = '>' then [] :: splitKeys rest
      else if c = '.' then [] :: splitKeys (d :: rest)
      else consFirst c (splitKeys (d :: rest))

def parseKey (path : String) (cs : List Char) : Except Invalid String :=
  let key := trim cs
  if key.isEmpty then .error (.emptyKey path)
  else if key.all isNameChar then .ok (String.ofList key)
  else .error (.badKey (String.ofList key) path)

def parsePath (cs : List Char) : Except Invalid (List String) :=
  (splitKeys cs).mapM (parseKey (String.ofList cs))

/-- Puts the table in front of an identifier that has no qualifier, if settings
ask for it. -/
def qualify (settings : Settings) (table : Option Ident) (ident : Ident) :
    Ident :=
  match table with
  | some table =>
      if settings.qualifyColumns && !ident.isQualified then
        ident.qualifiedBy table
      else ident
  | none => ident

def dropArrowTail : List Char → List Char
  | [] => []
  | c :: cs => if c = '>' then cs else c :: cs

def parseExpression (settings : Settings) (table : Option Ident)
    (label : Option String) (cs : List Char) : Except Error Column :=
  if cs.isEmpty then .error (.validation .emptyColumn)
  else
    match cutArrow cs with
    | some (before, after) =>
        match Ident.parse (String.ofList (trim before)) with
        | .error error => .error error
        | .ok base =>
            match parsePath (dropArrowTail after) with
            | .error cause => .error (.validation cause)
            | .ok path => .ok (.json (qualify settings table base) path label)
    | none =>
        match Ident.parse (String.ofList cs) with
        | .error error => .error error
        | .ok ident => .ok (.plain (qualify settings table ident) label)

def parse (settings : Settings) (table : Option Ident) (raw : String) :
    Except Error Column :=
  parseExpression settings table none (trim raw.toList)

def cutLabel : List Char → Option (List Char × List Char)
  | [] => none
  | c :: cs =>
      match cutLabel cs with
      | some (before, after) => some (c :: before, after)
      | none =>
          if ((c :: cs).take 4).map Char.toLower = [' ', 'a', 's', ' '] then
            some ([], cs.drop 3)
          else none

/-- Splits off a label; what follows the last ` as ` is one only if it is a
plain name. -/
def splitLabel (cs : List Char) : List Char × Option String :=
  match cutLabel cs with
  | some (before, after) =>
      let label := trim after
      if isPlainName label then (trimEnd before, some (String.ofList label))
      else (cs, none)
  | none => (cs, none)

def wildcardTable? (cs : List Char) : Option (List Char) :=
  match cs.reverse with
  | '*' :: '.' :: rest => some rest.reverse
  | _ => none

def parseProjection (settings : Settings) (table : Option Ident)
    (raw : String) : Except Error Column :=
  let (cs, label) := splitLabel (trim raw.toList)
  if cs = ['*'] ∧ label = none then .ok (.wildcard none)
  else
    match wildcardTable? cs with
    | some owner =>
        if label.isSome then .error (.validation .labelledWildcard)
        else
          (Ident.parse (String.ofList owner)).map fun owner =>
            .wildcard (some owner)
    | none =>
        match settings.functions.embeds (String.ofList cs) with
        | .error cause => .error (.validation cause)
        | .ok true => .ok (.call (String.ofList cs) label)
        | .ok false => parseExpression settings table label cs

def parseAggregateTarget (settings : Settings) (table : Option Ident)
    (raw : String) : Except Error Column :=
  if trim raw.toList = ['*'] then .ok (.wildcard none)
  else parse settings table raw

end Column
end SqlAssembler
