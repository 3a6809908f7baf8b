import SqlAssembler.Text.Duration

/-!
# Errors

Every refusal names its cause, and `Error.message` holds the wording of all of
them. The first seven causes of `Error` are mistakes in the calls that record a
statement: they are found before anything is sent to an executor.
-/

namespace SqlAssembler

inductive CallFault where
  | closesUnopened
  | holdsMarker
  | holdsSeparator
  | holdsComment
  | unclosedQuote
  | openParenthesis
  deriving DecidableEq, Repr

inductive GroupFault where
  | endWithoutStart
  | leftOpen (count : Nat)
  | described (text : String)
  deriving DecidableEq, Repr

inductive Invalid where
  | emptyIdent
  | nulInIdent
  | emptyQuotedPart
  | unclosedQuotedPart
  | emptyPart (ident : String)
  | badCharacter (ident : String) (char : Char)
  | trailingDot
  | textAfterPart (ident : String)
  | badCall (call : String) (fault : CallFault)
  | notACall (text : String)
  | emptyColumn
  | labelledWildcard
  | emptyKey (path : String)
  | badKey (key path : String)
  | repeatedKey (projection key : String)
  | connector (text : String)
  | joinKind (text : String)
  | aggregateOfAll (aggregate : String)
  | aggregateTarget (aggregate target : String)
  | tableInUse (table : String)
  | nothingToInsert
  | nothingToSet
  | described (text : String)
  deriving DecidableEq, Repr

inductive ConfigFault where
  | unreadable (path reason : String)
  | malformed
  | functionName (name : String)
  | described (text : String)
  deriving DecidableEq, Repr

inductive Error where
  | invalidOperator (token : String)
  | invalidValue (operator value : String)
  | invalidAggregate (text : String)
  | unbalancedGroup (fault : GroupFault)
  | emptyGroup
  | missingTable
  | validation (cause : Invalid)
  | execution (text : String)
  | timeout (milliseconds : Nat)
  | decode (column text : String)
  | unknownConnection (name : String)
  | config (fault : ConfigFault)
  deriving DecidableEq, Repr

/-!
## Wording
-/

def CallFault.text : CallFault → String
  | closesUnopened => "closes a parenthesis it never opened"
  | holdsMarker => "contains a placeholder marker"
  | holdsSeparator => "contains a statement separator"
  | holdsComment => "contains a comment"
  | unclosedQuote => "has an unclosed quote"
  | openParenthesis => "has unbalanced parentheses"

def GroupFault.text : GroupFault → String
  | endWithoutStart => "end_group without a matching start_group"
  | leftOpen count => s!"{count} group(s) left open"
  | described text => text

def Invalid.text : Invalid → String
  | emptyIdent => "Identifier cannot be empty"
  | nulInIdent => "Identifier cannot contain NUL character"
  | emptyQuotedPart => "Empty quoted identifier"
  | unclosedQuotedPart => "Unclosed quoted identifier"
  | emptyPart ident => s!"Empty identifier segment in '{ident}'"
  | badCharacter ident char =>
      s!"Invalid character in identifier '{ident}': '{char}'"
  | trailingDot => "Trailing '.' in identifier"
  | textAfterPart ident =>
      s!"Unexpected text after identifier part in '{ident}'"
  | badCall call fault => s!"Function call '{call}' " ++ fault.text
  | notACall text => s!"'{text}' is not an allowed function call"
  | emptyColumn => "Column cannot be empty"
  | labelledWildcard => "Wildcard projection cannot be aliased"
  | emptyKey path => s!"Empty key in JSON path '{path}'"
  | badKey key path => s!"Invalid key '{key}' in JSON path '{path}'"
  | repeatedKey projection key =>
      s!"Projection '{projection}' repeats result key '{key}'"
  | connector text => s!"Invalid connector: '{text}'"
  | joinKind text => s!"Invalid join kind: '{text}'"
  | aggregateOfAll aggregate => s!"{aggregate} cannot be applied to '*'"
  | aggregateTarget aggregate target =>
      s!"{aggregate} needs a column, got '{target}'"
  | tableInUse table =>
      s!"Cannot change table to '{table}' after columns were added"
  | nothingToInsert => "INSERT requires at least one column"
  | nothingToSet => "UPDATE requires at least one SET column"
  | described text => text

/-- A document that does not follow the settings format is reported without
further detail. -/
def ConfigFault.text : ConfigFault → String
  | unreadable path reason => s!"failed to read {path}: {reason}"
  | malformed => "<toml>"
  | functionName name =>
      s!"function names must be upper-case identifiers, got '{name}'"
  | described text => text

namespace Error

def message : Error → String
  | invalidOperator token => s!"Invalid operator: '{token}'"
  | invalidValue operator value =>
      s!"Invalid value '{value}' for operator '{operator}'"
  | invalidAggregate text => s!"Invalid aggregate function: '{text}'"
  | unbalancedGroup fault => "Unbalanced condition groups: " ++ fault.text
  | emptyGroup => "Empty condition group"
  | missingTable => "No table set for query"
  | validation cause => "Validation error: " ++ cause.text
  | execution text => s!"Execution error: {text}"
  | timeout milliseconds =>
      "Query timeout after " ++ Text.durationText milliseconds
  | decode column text => s!"Decode error on column '{column}': {text}"
  | unknownConnection name => s!"Unknown connection: '{name}'"
  | config fault => "Config error: " ++ fault.text

def isValidation : Error → Bool
  | invalidOperator _ | invalidValue _ _ | invalidAggregate _
  | unbalancedGroup _ | emptyGroup | missingTable | validation _ => true
  | _ => false

def isTimeout : Error → Bool
  | timeout _ => true
  | _ => false

end Error
end SqlAssembler
