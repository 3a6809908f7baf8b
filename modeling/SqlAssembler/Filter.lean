import SqlAssembler.Operator
import SqlAssembler.FunctionNames
import SqlAssembler.Statement

/-!
# Filters

A filter compares a column with a value. The value is bound, except that a call
of an allowed function is embedded, the comparison with an empty text is written
out, and a test for null takes only the words `true` and `false`.
-/

namespace SqlAssembler
namespace Filter

def splitCommas : List Char → List (List Char)
  | [] => [[]]
  | c :: cs =>
      if c = ',' then [] :: splitCommas cs
      else
        match splitCommas cs with
        | [] => [[c]]
        | first :: others => (c :: first) :: others

def elements (value : String) : List Param :=
  (splitCommas value.toList).map fun cs => .text (String.ofList cs)

def slots (params : List Param) : Fragment :=
  Fragment.separated "," (params.map fun param => [.slot param])

def comparison (column value : String) (kind : Comparison) (embedded : Bool) :
    Fragment :=
  let head := column ++ " " ++ kind.sql ++ " "
  if value.isEmpty then [.text (head ++ "''")]
  else if embedded then [.text (head ++ value)]
  else [.text head, .slot (.text value)]

/-- A pattern that minds the case compares bytes. -/
def pattern (column value : String) (shape : Pattern) (embedded : Bool) :
    Fragment :=
  let target := if shape.caseless then column else "BINARY " ++ column
  let head := target ++ (if shape.negated then " NOT LIKE " else " LIKE ")
  if embedded then [.text (head ++ value)]
  else [.text head, .slot (.text (shape.part.wrap value))]

def membership (column value : String) (negated embedded : Bool) : Fragment :=
  let head := column ++ (if negated then " NOT IN (" else " IN (")
  if embedded then [.text (head ++ value ++ ")")]
  else .text head :: slots (elements value) ++ [.text ")"]

def isTrue? (value : String) : Option Bool :=
  if value = "true" then some true
  else if value = "false" then some false
  else none

def nullness (column : String) (isNull : Bool) : Fragment :=
  [.text (column ++ (if isNull then " IS NULL" else " IS NOT NULL"))]

/-- The condition that compares `column`, which is SQL already, with `value`. -/
def condition (functions : FunctionNames) (column : String)
    (operator : Operator) (value : String) : Except Error Fragment :=
  match functions.embeds value with
  | .error _ => .error (.invalidValue operator.token value)
  | .ok embedded =>
      match operator with
      | .comparison kind => .ok (comparison column value kind embedded)
      | .pattern shape => .ok (pattern column value shape embedded)
      | .membership negated => .ok (membership column value negated embedded)
      | .nullness negated =>
          match isTrue? value with
          | some isNull => .ok (nullness column (isNull != negated))
          | none => .error (.invalidValue operator.token value)

end Filter
end SqlAssembler
