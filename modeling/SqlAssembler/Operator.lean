import SqlAssembler.Error

/-!
# Filter operators

The operators fall into four families: comparisons; patterns, which match a part
of the text and may be negated or ignore the case; membership in a list; and
tests for null. Each operator has one token, and only tokens written exactly so
are read.
-/

namespace SqlAssembler

inductive Comparison where
  | eq
  | notEq
  | lt
  | gt
  | le
  | ge
  deriving DecidableEq, Repr

inductive PatternPart where
  | start
  | ending
  | anywhere
  deriving DecidableEq, Repr

/-- A `caseless` pattern leaves the comparison of letters to the database's
collation. -/
structure Pattern where
  part : PatternPart
  negated : Bool
  caseless : Bool
  deriving DecidableEq, Repr

inductive Operator where
  | comparison (kind : Comparison)
  | pattern (pattern : Pattern)
  | membership (negated : Bool)
  | nullness (negated : Bool)
  deriving DecidableEq, Repr

def Comparison.token : Comparison → String
  | eq => "eq"
  | notEq => "!eq"
  | lt => "lt"
  | gt => "gt"
  | le => "le"
  | ge => "ge"

def Comparison.sql : Comparison → String
  | eq => "="
  | notEq => "!="
  | lt => "<"
  | gt => ">"
  | le => "<="
  | ge => ">="

def PatternPart.token : PatternPart → String
  | start => "sw"
  | ending => "ew"
  | anywhere => "has"

def PatternPart.wrap : PatternPart → String → String
  | start, value => value ++ "%"
  | ending, value => "%" ++ value
  | anywhere, value => "%" ++ value ++ "%"

namespace Operator

def negation (negated : Bool) : String :=
  if negated then "!" else ""

def token : Operator → String
  | comparison kind => kind.token
  | pattern ⟨part, negated, caseless⟩ =>
      negation negated ++ (if caseless then "i" else "") ++ part.token
  | membership negated => negation negated ++ "in"
  | nullness negated => negation negated ++ "null"

def patternsOf (part : PatternPart) : List Operator :=
  [pattern ⟨part, false, false⟩, pattern ⟨part, true, false⟩,
    pattern ⟨part, false, true⟩, pattern ⟨part, true, true⟩]

def all : List Operator :=
  [comparison .eq, comparison .notEq, comparison .lt, comparison .gt,
    comparison .le, comparison .ge] ++
    patternsOf .start ++ patternsOf .ending ++ patternsOf .anywhere ++
    [membership false, membership true, nullness false, nullness true]

def parse (token : String) : Except Error Operator :=
  match all.find? fun operator => operator.token = token with
  | some operator => .ok operator
  | none => .error (.invalidOperator token)

example : all.map token =
    ["eq", "!eq", "lt", "gt", "le", "ge", "sw", "!sw", "isw", "!isw",
      "ew", "!ew", "iew", "!iew", "has", "!has", "ihas", "!ihas",
      "in", "!in", "null", "!null"] := by decide

theorem mem_all (operator : Operator) : operator ∈ all := by
  rcases operator with kind | ⟨part, negated, caseless⟩ | negated | negated
  · cases kind <;> decide
  · cases part <;> cases negated <;> cases caseless <;> decide
  · cases negated <;> decide
  · cases negated <;> decide

end Operator
end SqlAssembler
