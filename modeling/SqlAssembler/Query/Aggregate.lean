import SqlAssembler.Column

/-!
# Aggregates

An aggregate is one of five functions, over all values of a column or over the
distinct ones. Only the count can range over all rows.
-/

namespace SqlAssembler

open Text

inductive AggregateFunction where
  | avg
  | count
  | max
  | min
  | sum
  deriving DecidableEq, Repr

def AggregateFunction.sql : AggregateFunction → String
  | avg => "AVG"
  | count => "COUNT"
  | max => "MAX"
  | min => "MIN"
  | sum => "SUM"

structure Aggregate where
  function : AggregateFunction
  distinct : Bool
  deriving DecidableEq, Repr

namespace Aggregate

def token (aggregate : Aggregate) : String :=
  if aggregate.distinct then aggregate.function.sql ++ "_DISTINCT"
  else aggregate.function.sql

/-- The aggregates that have a token: distinct values make no difference to a
maximum or to a minimum. -/
def all : List Aggregate :=
  [⟨.avg, false⟩, ⟨.avg, true⟩, ⟨.count, false⟩, ⟨.count, true⟩,
    ⟨.max, false⟩, ⟨.min, false⟩, ⟨.sum, false⟩, ⟨.sum, true⟩]

def parse (text : String) : Except Error Aggregate :=
  let word := String.ofList (upper (trim text.toList))
  match all.find? fun aggregate => aggregate.token = word with
  | some aggregate => .ok aggregate
  | none => .error (.invalidAggregate text)

def target (aggregate : Aggregate) (column : Column) : Except Invalid String :=
  match column with
  | .wildcard none =>
      if aggregate.function = .count ∧ !aggregate.distinct then .ok column.sql
      else .error (.aggregateOfAll aggregate.token)
  | .wildcard (some _) | .call _ _ =>
      .error (.aggregateTarget aggregate.token column.sql)
  | .plain _ _ | .json _ _ _ => .ok column.sql

def sql (aggregate : Aggregate) (target : String) : String :=
  let distinct := if aggregate.distinct then "DISTINCT " else ""
  aggregate.function.sql ++ "(" ++ distinct ++ target ++ ")"

end Aggregate
end SqlAssembler
