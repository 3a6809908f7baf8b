import SqlAssembler.Ident
import SqlAssembler.Settings
import SqlAssembler.Statement

/-!
# Assignments

The calls that insert and update share: each gives one column a bound value or
the result of an allowed function. An absent optional value is no call at all.
-/

namespace SqlAssembler

inductive AssignedValue where
  | bound (value : Param)
  | call (text : String)

structure Assignment where
  column : Ident
  value : AssignedValue

def AssignedValue.piece : AssignedValue → Piece
  | bound value => .slot value
  | call text => .text text

inductive AssignCall where
  | set (column : String) (value : Param)
  | setOptional (column : String) (value : Option Param)
  | setFunction (column call : String)

namespace AssignCall

def assign (assignments : List Assignment) (column : String)
    (value : AssignedValue) : Except Error (List Assignment) :=
  (Ident.parse column).map fun column => assignments ++ [⟨column, value⟩]

def apply (settings : Settings) (assignments : List Assignment) :
    AssignCall → Except Error (List Assignment)
  | set column value => assign assignments column (.bound value)
  | setOptional _ none => .ok assignments
  | setOptional column (some value) => assign assignments column (.bound value)
  | setFunction column call =>
      match settings.functions.embeds call with
      | .error cause => .error (.validation cause)
      | .ok false => .error (.validation (.notACall call))
      | .ok true => assign assignments column (.call call)

end AssignCall
end SqlAssembler
