import SqlAssembler.Conditions
import SqlAssembler.Query.Aggregate
import SqlAssembler.Query.Join
import SqlAssembler.Query.SortKey

/-!
# Selections

A selection is all that a SELECT statement says. The same selection can be
written as the statement that returns its rows and as one that returns a single
aggregate over them: both read from the same `source`, the tables, joins,
conditions and groups.
-/

namespace SqlAssembler

structure Selection where
  table : Option Ident
  distinct : Bool
  joins : List Join
  columns : List Column
  conditions : Conditions
  groupBy : List Column
  orderBy : List SortKey
  limit : Option UInt64
  offset : Option UInt64

namespace Selection

def empty : Selection :=
  ⟨none, false, [], [], .empty, [], [], none, none⟩

/-- The limit that keeps all rows: the dialect has no offset without a limit. -/
def noLimit : UInt64 :=
  0xFFFFFFFFFFFFFFFF

def commaList (items : List String) : String :=
  ", ".intercalate items

def groupText (selection : Selection) : String :=
  if selection.groupBy.isEmpty then ""
  else " GROUP BY " ++ commaList (selection.groupBy.map Column.sql)

def orderText (selection : Selection) : String :=
  if selection.orderBy.isEmpty then ""
  else " ORDER BY " ++ commaList (selection.orderBy.map SortKey.sql)

def limitText (selection : Selection) : String :=
  match selection.limit, selection.offset with
  | some limit, _ => s!" LIMIT {limit.toNat}"
  | none, some _ => s!" LIMIT {noLimit.toNat}"
  | none, none => ""

def offsetText (selection : Selection) : String :=
  match selection.offset with
  | some offset => s!" OFFSET {offset.toNat}"
  | none => ""

def columnsText (selection : Selection) : String :=
  if selection.columns.isEmpty then "*"
  else commaList (selection.columns.map Column.projectionSql)

def source (selection : Selection) : Except Error Fragment :=
  match selection.table with
  | none => .error .missingTable
  | some table =>
      selection.conditions.render.map fun conditions =>
        .text (" FROM " ++ table.sql) ::
          selection.joins.map (fun join => .text join.sql) ++
          conditions ++ [.text selection.groupText]

def rows (selection : Selection) : Except Error Fragment :=
  selection.source.map fun source =>
    let distinct := if selection.distinct then "DISTINCT " else ""
    let tail :=
      selection.orderText ++ selection.limitText ++ selection.offsetText
    .text ("SELECT " ++ distinct ++ selection.columnsText) ::
      source ++ [.text tail]

/-- The statement that returns one aggregate. The order matters only beside
groups; limit, offset and DISTINCT never do. -/
def aggregated (selection : Selection) (aggregate : Aggregate)
    (column : Column) : Except Error Fragment :=
  match aggregate.target column with
  | .error cause => .error (.validation cause)
  | .ok target =>
      selection.source.map fun source =>
        let tail :=
          if selection.groupBy.isEmpty then "" else selection.orderText
        .text ("SELECT " ++ aggregate.sql target) :: source ++ [.text tail]

end Selection
end SqlAssembler
