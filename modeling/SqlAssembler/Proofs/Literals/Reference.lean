import SqlAssembler.Proofs.Scripts.Basic

/-!
# Statements written with literals

A reference for what the values of a statement mean: the same calls, except that
a call which would bind values writes their literals at once, where it would
write markers. Nothing is collected beside the text, so there is nothing that
could get out of order.
-/

namespace SqlAssembler

/-!
## Filters
-/

namespace Filter

def literalComparison (column value : String) (kind : Comparison)
    (embedded : Bool) : String :=
  let head := column ++ " " ++ kind.sql ++ " "
  if value.isEmpty then head ++ "''"
  else if embedded then head ++ value
  else head ++ (Param.text value).literal

def literalPattern (column value : String) (shape : Pattern)
    (embedded : Bool) : String :=
  let target := if shape.caseless then column else "BINARY " ++ column
  let head := target ++ (if shape.negated then " NOT LIKE " else " LIKE ")
  if embedded then head ++ value
  else head ++ (Param.text (shape.part.wrap value)).literal

def literalMembership (column value : String) (negated embedded : Bool) :
    String :=
  let head := column ++ (if negated then " NOT IN (" else " IN (")
  if embedded then head ++ value ++ ")"
  else head ++ ",".intercalate ((elements value).map Param.literal) ++ ")"

def literalCondition (functions : FunctionNames) (column : String)
    (operator : Operator) (value : String) : Except Error String :=
  match functions.embeds value with
  | .error _ => .error (.invalidValue operator.token value)
  | .ok embedded =>
      match operator with
      | .comparison kind => .ok (literalComparison column value kind embedded)
      | .pattern shape => .ok (literalPattern column value shape embedded)
      | .membership negated =>
          .ok (literalMembership column value negated embedded)
      | .nullness negated =>
          match isTrue? value with
          | some isNull =>
              .ok (column ++
                (if isNull != negated then " IS NULL" else " IS NOT NULL"))
          | none => .error (.invalidValue operator.token value)

end Filter

namespace FilterCall

def addLiteral (settings : Settings) (table : Option Ident)
    (conditions : Conditions) (connector : Connector) (column : String)
    (operator : Operator) (value : String) : Except Error Conditions := do
  let column ← Column.parse settings table column
  let text ←
    Filter.literalCondition settings.functions column.sql operator value
  return conditions.add connector [.text text]

def applyLiteral (settings : Settings) (table : Option Ident)
    (conditions : Conditions) : FilterCall → Except Error Conditions
  | filter connector column operator value => do
      let operator ← Operator.parse operator
      addLiteral settings table conditions connector column operator value
  | filterBy column operator value =>
      addLiteral settings table conditions .and column operator value
  | openGroup connector => .ok (conditions.openGroup connector)
  | closeGroup => conditions.closeGroup

end FilterCall

/-!
## Assignments
-/

def AssignCall.applyLiteral (settings : Settings)
    (assignments : List Assignment) :
    AssignCall → Except Error (List Assignment)
  | set column value => assign assignments column (.call value.literal)
  | setOptional _ none => .ok assignments
  | setOptional column (some value) =>
      assign assignments column (.call value.literal)
  | setFunction column call => apply settings assignments (.setFunction column call)

/-!
## Builders
-/

def SelectCall.literalEdits (settings : Settings) :
    SelectCall → List (Edit Selection)
  | filter call =>
      [fun selection =>
        (call.applyLiteral settings selection.table selection.conditions).map
          fun conditions => { selection with conditions }]
  | call => call.edits settings

def Insertion.assignLiteral (settings : Settings) (call : AssignCall) :
    Edit Insertion := fun insertion =>
  (call.applyLiteral settings insertion.assignments).map fun assignments =>
    { insertion with assignments }

def UpdateCall.literalEdit (settings : Settings) : UpdateCall → Edit Update
  | assign call => fun update =>
      (call.applyLiteral settings update.assignments).map fun assignments =>
        { update with assignments }
  | filter call => fun update =>
      (call.applyLiteral settings update.table update.conditions).map
        fun conditions => { update with conditions }

def DeleteCall.literalEdit (settings : Settings) : DeleteCall → Edit Deletion
  | filter call => fun deletion =>
      (call.applyLiteral settings deletion.table deletion.conditions).map
        fun conditions => { deletion with conditions }
  | call => call.edit settings

def Builder.attemptAll {σ : Type} (builder : Builder σ)
    (edits : List (Edit σ)) : Builder σ :=
  { builder with recording := builder.recording.attemptAll edits }

/-- The statement of the script with literals in place of its values. -/
def Script.literalStatement : Script → Except Error Statement
  | select settings table calls =>
      SelectBuilder.statement
        ((SelectBuilder.start settings table).attemptAll
          (calls.flatMap (SelectCall.literalEdits settings)))
  | aggregate settings table calls function column =>
      SelectBuilder.aggregateStatement
        ((SelectBuilder.start settings table).attemptAll
          (calls.flatMap (SelectCall.literalEdits settings)))
        function column
  | insert settings table calls =>
      InsertBuilder.statement
        ((InsertBuilder.start settings table).attemptAll
          (calls.map (Insertion.assignLiteral settings)))
  | update settings table calls =>
      UpdateBuilder.statement
        ((UpdateBuilder.start settings table).attemptAll
          (calls.map (UpdateCall.literalEdit settings)))
  | delete settings table calls =>
      DeleteBuilder.statement
        ((DeleteBuilder.start settings table).attemptAll
          (calls.map (DeleteCall.literalEdit settings)))

end SqlAssembler
