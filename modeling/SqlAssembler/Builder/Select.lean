import SqlAssembler.Builder.Filtering
import SqlAssembler.Builder.Recording
import SqlAssembler.Query.Selection

/-!
# Building selections

Calls that take several entries record each entry by itself, so one bad entry
does not keep the others from being recorded. Two projections may not give the
same result key. Columns are qualified when they are recorded; therefore the
table can be changed only before the first of them.
-/

namespace SqlAssembler

inductive SelectCall where
  | setTable (name : String)
  | distinct
  | select (columns : List String)
  | join (kind table left right : String)
  | joinAs (kind : JoinKind) (table left right : String)
  | filter (call : FilterCall)
  | groupBy (columns : List String)
  | orderBy (entries : List String)
  | limit (count : UInt64)
  | offset (count : UInt64)
  | page (number size : UInt64)

abbrev SelectBuilder := Builder Selection

namespace Selection

/-- Whether something was recorded that may carry the table's name. -/
def usesTable (selection : Selection) : Bool :=
  !(selection.columns.isEmpty && selection.joins.isEmpty &&
    selection.conditions.isEmpty && selection.groupBy.isEmpty &&
    selection.orderBy.isEmpty)

def setTable (name : String) : Edit Selection := fun selection =>
  if selection.table.isSome && selection.usesTable then
    .error (.validation (.tableInUse name))
  else
    (Ident.parse name).map fun table => { selection with table := some table }

def hasResultKey (selection : Selection) (key : String) : Bool :=
  selection.columns.any fun column => column.resultKey = some key

def project (settings : Settings) (raw : String) :
    Edit Selection := fun selection => do
  let column ← Column.parseProjection settings selection.table raw
  let added := { selection with columns := selection.columns ++ [column] }
  match column.resultKey with
  | none => return added
  | some key =>
      if selection.hasResultKey key then
        let projection := String.ofList (Text.trim raw.toList)
        throw (.validation (.repeatedKey projection key))
      else return added

def addJoin (settings : Settings) (kind : JoinKind)
    (table left right : String) : Edit Selection := fun selection =>
  (Join.parse settings selection.table kind table left right).map fun join =>
    { selection with joins := selection.joins ++ [join] }

def addFilter (settings : Settings) (call : FilterCall) :
    Edit Selection := fun selection =>
  let conditions := call.apply settings selection.table selection.conditions
  conditions.map fun conditions => { selection with conditions }

def addGroup (settings : Settings) (raw : String) :
    Edit Selection := fun selection =>
  (Column.parse settings selection.table raw).map fun column =>
    { selection with groupBy := selection.groupBy ++ [column] }

def addOrder (settings : Settings) (raw : String) :
    Edit Selection := fun selection =>
  (SortKey.parse settings selection.table raw).map fun key =>
    { selection with orderBy := selection.orderBy ++ [key] }

/-- The product of two words, or the largest word if it is beyond that. -/
def saturatingMul (left right : UInt64) : UInt64 :=
  if left.toNat * right.toNat ≤ noLimit.toNat then left * right else noLimit

def pageOffset (number size : UInt64) : UInt64 :=
  saturatingMul (number - 1) size

def setPage (number size : UInt64) : Edit Selection := fun selection =>
  let number := max number 1
  let size := max size 1
  .ok { selection with
    limit := some size
    offset := some (pageOffset number size) }

end Selection

namespace SelectCall

def edits (settings : Settings) : SelectCall → List (Edit Selection)
  | setTable name => [Selection.setTable name]
  | distinct => [fun selection => .ok { selection with distinct := true }]
  | select columns => columns.map (Selection.project settings)
  | join kind table left right =>
      [fun selection => do
        let kind ← JoinKind.parse kind
        Selection.addJoin settings kind table left right selection]
  | joinAs kind table left right =>
      [Selection.addJoin settings kind table left right]
  | filter call => [Selection.addFilter settings call]
  | groupBy columns => columns.map (Selection.addGroup settings)
  | orderBy entries => entries.map (Selection.addOrder settings)
  | limit count => [fun selection => .ok { selection with limit := some count }]
  | offset count =>
      [fun selection => .ok { selection with offset := some count }]
  | page number size => [Selection.setPage number size]

end SelectCall

namespace SelectBuilder

def start (settings : Settings) (table : String) : SelectBuilder :=
  ⟨settings, (Recording.start .empty).attempt (Selection.setTable table)⟩

def record (builder : SelectBuilder) (call : SelectCall) : SelectBuilder :=
  { builder with
    recording := builder.recording.attemptAll (call.edits builder.settings) }

def recordAll (builder : SelectBuilder) (calls : List SelectCall) :
    SelectBuilder :=
  calls.foldl record builder

theorem recordAll_eq (builder : SelectBuilder) (calls : List SelectCall) :
    builder.recordAll calls =
      ⟨builder.settings,
        builder.recording.attemptAll
          (calls.flatMap (SelectCall.edits builder.settings))⟩ :=
  Builder.foldl_record SelectCall.edits (fun _ _ => rfl) builder calls

def selection (builder : SelectBuilder) : Selection :=
  builder.recording.parts

def statement (builder : SelectBuilder) : Except Error Statement := do
  let selection ← builder.recording.checked
  return (← selection.rows).statement

/-- Like `statement`, with a limit of one row if no limit was recorded. -/
def firstRowStatement (builder : SelectBuilder) : Except Error Statement := do
  let selection ← builder.recording.checked
  let limited := { selection with limit := selection.limit.or (some 1) }
  return (← limited.rows).statement

def aggregateStatement (builder : SelectBuilder) (function column : String) :
    Except Error Statement := do
  let selection ← builder.recording.checked
  let aggregate ← Aggregate.parse function
  let column ←
    Column.parseAggregateTarget builder.settings selection.table column
  return (← selection.aggregated aggregate column).statement

end SelectBuilder
end SqlAssembler
