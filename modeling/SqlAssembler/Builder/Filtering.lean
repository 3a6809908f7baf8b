import SqlAssembler.Column
import SqlAssembler.Conditions
import SqlAssembler.Filter

/-!
# Filter calls

The calls that select, update and delete share: adding a condition, and opening
and closing a group of conditions. A refused call leaves the conditions as they
were.
-/

namespace SqlAssembler

inductive FilterCall where
  | filter (connector : Connector) (column operator value : String)
  /-- A condition whose operator has been read already; it is joined by AND. -/
  | filterBy (column : String) (operator : Operator) (value : String)
  | openGroup (connector : Connector)
  | closeGroup

namespace FilterCall

def addFilter (settings : Settings) (table : Option Ident)
    (conditions : Conditions) (connector : Connector) (column : String)
    (operator : Operator) (value : String) : Except Error Conditions := do
  let column ← Column.parse settings table column
  let fragment ← Filter.condition settings.functions column.sql operator value
  return conditions.add connector fragment

def apply (settings : Settings) (table : Option Ident)
    (conditions : Conditions) : FilterCall → Except Error Conditions
  | filter connector column operator value => do
      let operator ← Operator.parse operator
      addFilter settings table conditions connector column operator value
  | filterBy column operator value =>
      addFilter settings table conditions .and column operator value
  | openGroup connector => .ok (conditions.openGroup connector)
  | closeGroup => conditions.closeGroup

end FilterCall
end SqlAssembler
