import SqlAssembler.Column

/-!
# Sort keys

An entry of ORDER BY is a column, with a minus sign in front for descending
order. A plus sign may stand in front of an ascending one.
-/

namespace SqlAssembler

open Text

inductive Direction where
  | ascending
  | descending
  deriving DecidableEq, Repr

def Direction.sql : Direction → String
  | ascending => "ASC"
  | descending => "DESC"

structure SortKey where
  column : Column
  direction : Direction
  deriving DecidableEq, Repr

namespace SortKey

def splitSign : List Char → Direction × List Char
  | '-' :: rest => (.descending, rest)
  | '+' :: rest => (.ascending, rest)
  | cs => (.ascending, cs)

def parse (settings : Settings) (table : Option Ident) (raw : String) :
    Except Error SortKey :=
  let (direction, cs) := splitSign (trim raw.toList)
  (Column.parse settings table (String.ofList cs)).map fun column =>
    ⟨column, direction⟩

def sql (key : SortKey) : String :=
  key.column.sql ++ " " ++ key.direction.sql

end SortKey
end SqlAssembler
