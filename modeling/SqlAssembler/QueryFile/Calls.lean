import SqlAssembler.Builder.Select
import SqlAssembler.Decimal.Layout
import SqlAssembler.QueryFile.Reader
import SqlAssembler.Toml.Writer

/-!
# The calls of a query file

A query file stands for a sequence of recording calls. The value of a condition
is given to the builder as text; the items of an array are joined by commas. An
entry that stands for no call is reported at once, in front of any error that
the calls themselves leave behind.
-/

namespace SqlAssembler

inductive QueryFault where
  | unsupportedValue (value : Toml)
  | openEndGroup
  | refused (error : Error)

def QueryFault.message : QueryFault → String
  | unsupportedValue value => "unsupported condition value: " ++ value.write
  | openEndGroup => "end_group must be true"
  | refused error => error.message

namespace QueryFile

mutual

def conditionText : Toml → Except QueryFault String
  | .string value => .ok value
  | .integer value => .ok (toString value)
  | .float value => .ok (Decimal.Layout.plain.write value)
  | .undefined _ => .ok Decimal.Layout.plain.nan
  | .boolean value => .ok (if value then "true" else "false")
  | .array items => (itemTexts items).map (",".intercalate ·)
  | .dateTime value => .error (.unsupportedValue (.dateTime value))
  | .table entries => .error (.unsupportedValue (.table entries))

def itemTexts : List Toml → Except QueryFault (List String)
  | [] => .ok []
  | item :: rest => do
      let text ← conditionText item
      return text :: (← itemTexts rest)

end

def connector (text : String) : Except QueryFault Connector :=
  (Connector.parse text).mapError .refused

def conditionCall : FilterEntry → Except QueryFault FilterCall
  | .condition column operator value connectorText => do
      let connector ← match connectorText with
        | some text => connector text
        | none => .ok .and
      let text ← match value with
        | some value => conditionText value
        | none => .ok ""
      return .filter connector column operator text
  | .opening text => (connector text).map .openGroup
  | .closing closes => if closes then .ok .closeGroup else .error .openEndGroup

def calls (file : QueryFile) : Except QueryFault (List SelectCall) := do
  let conditions ← file.conditions.mapM conditionCall
  let joins := file.joins.map fun entry =>
    SelectCall.join entry.kind entry.table entry.left entry.right
  let distinct := if file.distinct then [SelectCall.distinct] else []
  return distinct ++ [.select file.columns] ++ joins ++
    conditions.map .filter ++
    [.groupBy file.groupBy, .orderBy file.orderBy] ++
    file.limit.toList.map .limit ++ file.offset.toList.map .offset

def builder (file : QueryFile) (settings : Settings) :
    Except QueryFault SelectBuilder := do
  return (SelectBuilder.start settings file.table).recordAll (← file.calls)

def statement (file : QueryFile) (settings : Settings)
    (aggregate : Option (String × String)) : Except QueryFault Statement := do
  let builder ← file.builder settings
  let built := match aggregate with
    | some (function, column) => builder.aggregateStatement function column
    | none => builder.statement
  built.mapError .refused

end QueryFile
end SqlAssembler
