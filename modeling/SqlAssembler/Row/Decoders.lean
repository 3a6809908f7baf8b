import SqlAssembler.Decimal.Layout
import SqlAssembler.Row.Decoding
import SqlAssembler.Text.Shown

/-!
# Decoders

Decoders of plain values, of lists and of records, to build a caller's own
decoder from. Where the value is of another kind, the reason names what was
found and what was expected. A record is read from an object, its members in the
order of the row, or from an array that lists its fields.
-/

namespace SqlAssembler

namespace Json

def described : Json → String
  | null => "null"
  | bool value =>
      "boolean \x60" ++ (if value then "true" else "false") ++ "\x60"
  | int value => "integer \x60" ++ toString value ++ "\x60"
  | float value =>
      "floating point \x60" ++ Decimal.Layout.dotted.write value ++ "\x60"
  | string value => "string " ++ Text.shown value
  | array _ => "sequence"
  | object _ => "map"

end Json

namespace Decoder

variable {α σ : Type}

def wrongType (value : Json) (expected : String) : String :=
  s!"invalid type: {value.described}, expected {expected}"

def integer (low high : Int) (expected : String) : Decoder Int
  | .int n =>
      if low ≤ n ∧ n ≤ high then .ok n
      else .error
        s!"invalid value: {(Json.int n).described}, expected {expected}"
  | value => .error (wrongType value expected)

def int64 : Decoder Int :=
  integer (-0x8000000000000000) 0x7FFFFFFFFFFFFFFF "i64"

def uint8 : Decoder Int :=
  integer 0 255 "u8"

def bool : Decoder Bool
  | .bool value => .ok value
  | value => .error (wrongType value "a boolean")

def text : Decoder String
  | .string raw => .ok raw
  | value => .error (wrongType value "a string")

def optional (decode : Decoder α) : Decoder (Option α)
  | .null => .ok none
  | value => (decode value).map some

def list (decode : Decoder α) : Decoder (List α)
  | .array items => items.mapM decode
  | value => .error (wrongType value "a sequence")

/-!
## Records
-/

/-- A field of a record, decoded into a draft of the record. -/
structure Field (σ : Type) where
  name : String
  required : Bool
  decode : Decoder (σ → σ)

def ofMembers (fields : List (Field σ)) (draft : σ) (members : Members) :
    Except String σ :=
  members.foldlM (fun draft member =>
    match fields.find? fun field => field.name = member.1 with
    | none => .ok draft
    | some field => (field.decode member.2).map fun fill => fill draft) draft

def ofItems (wanted : String) (position : Nat) :
    List (Field σ) → List Json → σ → Except String σ
  | [], _, draft => .ok draft
  | _ :: _, [], _ => .error s!"invalid length {position}, expected {wanted}"
  | field :: fields, item :: items, draft => do
      let fill ← field.decode item
      ofItems wanted (position + 1) fields items (fill draft)

def countWord (count : Nat) : String :=
  if count = 1 then s!"{count} element" else s!"{count} elements"

def record (name : String) (fields : List (Field σ)) (draft : σ) : Decoder σ
  | .object members => do
      let draft ← ofMembers fields draft members
      match fields.find? fun field =>
          field.required && !members.any fun member => member.1 = field.name with
      | some field => .error s!"missing field \x60{field.name}\x60"
      | none => .ok draft
  | .array items => do
      let wanted := s!"struct {name} with {countWord fields.length}"
      let draft ← ofItems wanted 0 fields items draft
      if fields.length < items.length then
        throw s!"invalid length {items.length}, expected fewer elements in array"
      return draft
  | value => .error (wrongType value s!"struct {name}")

end Decoder
end SqlAssembler
