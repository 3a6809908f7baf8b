import SqlAssembler.Json.Writer
import SqlAssembler.Text.Doubled

/-!
# Bound values

The values that a statement carries beside its text, one for each marker.
-/

namespace SqlAssembler

inductive Param where
  | null
  | bool (value : Bool)
  | int (value : Int)
  | float (value : Float)
  | text (value : String)

namespace Param

def text? : Param → Option String
  | text value => some value
  | _ => none

/-- The value as it is shown in logs; statements that run never contain it. -/
def literal : Param → String
  | null => "NULL"
  | bool value => if value then "TRUE" else "FALSE"
  | int value => toString value
  | float value => Decimal.Layout.plain.write value
  | text value => Text.enclosed '\'' value

def toJson : Param → Json
  | null => .null
  | bool value => .bool value
  | int value => .int value
  | float value => .float value
  | text value => .string value

def ofOption : Option Param → Param
  | none => null
  | some value => value

end Param

abbrev ParamList := List Param

namespace ParamList

def push (params : ParamList) (value : Param) : ParamList × Nat :=
  let params := params ++ [value]
  (params, params.length)

def extend (params other : ParamList) : ParamList :=
  params ++ other

theorem getElem?_push_extend (params later : ParamList) (value : Param) :
    ((params.push value).1.extend later)[(params.push value).2 - 1]? =
      some value := by
  simp [push, extend]

end ParamList

def writeParams (params : ParamList) : String :=
  (Json.array (params.map Param.toJson)).write

end SqlAssembler
