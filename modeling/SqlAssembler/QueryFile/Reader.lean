import SqlAssembler.Toml.Reader
import SqlAssembler.Toml.Record

/-!
# Query files

A TOML document describes a selection: its table, and the columns, joins,
conditions, groupings and orderings in the order in which they are recorded. An
entry of the conditions is a condition, or it opens or closes a group; which of
these it is shows in its keys. No key may stand in the document without a
meaning.
-/

namespace SqlAssembler

inductive FilterEntry where
  | condition (column operator : String) (value : Option Toml)
      (connector : Option String)
  | opening (connector : String)
  | closing (closes : Bool)

structure JoinFields where
  kind : String
  table : String
  left : String
  right : String
  deriving DecidableEq, Repr

structure QueryFile where
  table : String
  distinct : Bool
  columns : List String
  joins : List JoinFields
  conditions : List FilterEntry
  groupBy : List String
  orderBy : List String
  limit : Option UInt64
  offset : Option UInt64

open Toml

/-!
## Values of conditions
-/

def signedLimit : Int := 0x8000000000000000

mutual

def Toml.isBounded : Toml → Bool
  | integer value => -signedLimit ≤ value && value < signedLimit
  | array items => areBounded items
  | table entries => areEntriesBounded entries
  | _ => true

def Toml.areBounded : List Toml → Bool
  | [] => true
  | item :: rest => item.isBounded && areBounded rest

def Toml.areEntriesBounded : List (String × Toml) → Bool
  | [] => true
  | (_, value) :: rest => value.isBounded && areEntriesBounded rest

end

def Toml.bounded? (value : Toml) : Option Toml :=
  if value.isBounded then some value else none

/-!
## Entries
-/

namespace FilterEntry

/-- An entry has no room for anything beside its fields. -/
def form (names : List String) : RecordForm :=
  ⟨names, false, false⟩

def condition? (value : Toml) : Option FilterEntry := do
  let fields ← (form ["column", "op", "value", "connector"]).fields? value
  let column ← fields.required? "column" string?
  let operator ← fields.required? "op" string?
  let value ←
    fields.withDefault? "value" (fun value => value.bounded?.map some) none
  let connector ← fields.optional? "connector" string?
  return .condition column operator value connector

def opening? (value : Toml) : Option FilterEntry := do
  let fields ← (form ["start_group"]).fields? value
  return .opening (← fields.required? "start_group" string?)

def closing? (value : Toml) : Option FilterEntry := do
  let fields ← (form ["end_group"]).fields? value
  return .closing (← fields.required? "end_group" boolean?)

def ofToml? (value : Toml) : Option FilterEntry :=
  ((condition? value).or (opening? value)).or (closing? value)

end FilterEntry

def JoinFields.ofToml? (value : Toml) : Option JoinFields := do
  let form : RecordForm := ⟨["kind", "table", "left", "right"], false, true⟩
  let fields ← form.fields? value
  let kind ← fields.withDefault? "kind" string? "INNER"
  let table ← fields.required? "table" string?
  let left ← fields.required? "left" string?
  let right ← fields.required? "right" string?
  return ⟨kind, table, left, right⟩

namespace QueryFile

def form : RecordForm :=
  { names := ["table", "distinct", "select", "join", "where", "group_by",
      "order_by", "limit", "offset"]
    openTable := false
    openArray := false }

def read? (text : String) : Option QueryFile := do
  let fields ← form.fields? (.table (← Toml.read? text))
  let texts (name : String) := fields.withDefault? name (list? string?) []
  return {
    table := ← fields.required? "table" string?
    distinct := ← fields.withDefault? "distinct" boolean? false
    columns := ← texts "select"
    joins := ← fields.withDefault? "join" (list? JoinFields.ofToml?) []
    conditions :=
      ← fields.withDefault? "where" (list? FilterEntry.ofToml?) []
    groupBy := ← texts "group_by"
    orderBy := ← texts "order_by"
    limit := ← fields.optional? "limit" count?
    offset := ← fields.optional? "offset" count? }

end QueryFile
end SqlAssembler
