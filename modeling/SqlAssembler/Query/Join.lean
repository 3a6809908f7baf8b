import SqlAssembler.Column
import SqlAssembler.Statement

/-!
# Joins

A join names another table and one column on either side. A column without a
qualifier belongs to the table of the statement on the left and to the joined
table on the right.
-/

namespace SqlAssembler

open Text

inductive JoinKind where
  | inner
  | left
  | right
  deriving DecidableEq, Repr

namespace JoinKind

def sql : JoinKind → String
  | inner => "INNER JOIN"
  | left => "LEFT JOIN"
  | right => "RIGHT JOIN"

def parse (text : String) : Except Error JoinKind :=
  let word := String.ofList (upper (trim text.toList))
  if word = "INNER" then .ok inner
  else if word = "LEFT" then .ok left
  else if word = "RIGHT" then .ok right
  else .error (.validation (.joinKind text))

end JoinKind

structure Join where
  kind : JoinKind
  table : Ident
  left : Column
  right : Column
  deriving DecidableEq, Repr

namespace Join

def parse (settings : Settings) (queryTable : Option Ident) (kind : JoinKind)
    (table left right : String) : Except Error Join := do
  let table ← Ident.parse table
  let left ← Column.parse settings queryTable left
  let right ← Column.parse settings (some table) right
  return ⟨kind, table, left, right⟩

def sql (join : Join) : String :=
  " " ++ join.kind.sql ++ " " ++ join.table.sql ++
    " ON " ++ join.left.sql ++ " = " ++ join.right.sql

end Join
end SqlAssembler
