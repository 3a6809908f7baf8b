import SqlAssembler.Error
import SqlAssembler.Text.Quoting

/-!
# Allowed functions

A value or a projection that calls an allowed function is embedded in the
statement as it is written instead of being bound. What counts is the text
before the first parenthesis: it has to be one of the names, letter for letter.
The call itself is checked for its shape only: quotes and parentheses close, and
outside quotes there is no marker, no separator and no comment.
-/

namespace SqlAssembler

open Text

structure FunctionNames where
  names : List String
  deriving DecidableEq, Repr

namespace FunctionNames

def insertName (name : String) : List String → List String
  | [] => [name]
  | head :: rest =>
      if name < head then name :: head :: rest
      else if name = head then head :: rest
      else head :: insertName name rest

def empty : FunctionNames :=
  ⟨[]⟩

def insert (functions : FunctionNames) (name : String) : FunctionNames :=
  ⟨insertName name functions.names⟩

def insertAll (functions : FunctionNames) (names : List String) :
    FunctionNames :=
  names.foldl insert functions

def ofList (names : List String) : FunctionNames :=
  empty.insertAll names

def contains (functions : FunctionNames) (name : String) : Bool :=
  functions.names.contains name

def builtinNames : List String :=
  ["AVG", "COUNT", "GROUP_CONCAT", "MAX", "MIN", "SUM",
    "CURDATE", "CURRENT_DATE", "CURRENT_TIME", "CURRENT_TIMESTAMP", "CURTIME",
    "DATE", "DATE_ADD", "DATE_FORMAT", "DATE_SUB", "FROM_UNIXTIME", "NOW",
    "UNIX_TIMESTAMP", "UTC_TIMESTAMP",
    "CONCAT", "LENGTH", "LOWER", "SUBSTRING", "TRIM", "UPPER",
    "ABS", "CEIL", "COALESCE", "FLOOR", "IFNULL", "ROUND",
    "JSON_CONTAINS", "JSON_EXTRACT", "JSON_LENGTH"]

def builtin : FunctionNames :=
  ofList builtinNames

theorem mem_insertName (name other : String) (names : List String) :
    other ∈ insertName name names ↔ other = name ∨ other ∈ names := by
  induction names with
  | nil => simp [insertName]
  | cons head rest ih => grind [insertName]

/-!
## Calls
-/

/-- Whether the text before the first parenthesis is an allowed name. -/
def isCall (functions : FunctionNames) (value : String) : Bool :=
  let cs := value.toList
  let name := cs.takeWhile (· ≠ '(')
  cs.contains '(' && !name.isEmpty && functions.contains (String.ofList name)

def startsComment (c : Char) (rest : List Char) : Bool :=
  c = '#' || (c = '-' && rest.head? = some '-') ||
    (c = '/' && rest.head? = some '*')

/-- Reads on from inside a call, `depth` parentheses being open. A backslash
takes the meaning from the next character in every kind of quote. -/
def scanCall : Quoting → (depth : Nat) → List Char → Option CallFault
  | .outside, depth, [] => if depth = 0 then none else some .openParenthesis
  | .inside _, _, [] => some .unclosedQuote
  | .escaped _, _, [] => some .unclosedQuote
  | .outside, depth, c :: cs =>
      if c = '(' then scanCall .outside (depth + 1) cs
      else if c = ')' then
        if depth = 0 then some .closesUnopened
        else scanCall .outside (depth - 1) cs
      else if c = '?' then some .holdsMarker
      else if c = ';' then some .holdsSeparator
      else if startsComment c cs then some .holdsComment
      else scanCall (Quoting.step (fun _ => true) .outside c) depth cs
  | state, depth, c :: cs => scanCall (state.step (fun _ => true) c) depth cs

def callFault? (call : String) : Option CallFault :=
  scanCall .outside 0 call.toList

def embeds (functions : FunctionNames) (value : String) :
    Except Invalid Bool :=
  if functions.isCall value then
    match callFault? value with
    | some fault => .error (.badCall value fault)
    | none => .ok true
  else .ok false

theorem callFault?_of_embeds {functions : FunctionNames} {value : String}
    (h : functions.embeds value = .ok true) : callFault? value = none := by
  rw [embeds] at h
  split at h
  · split at h
    · cases h
    · assumption
  · cases h

end FunctionNames
end SqlAssembler
