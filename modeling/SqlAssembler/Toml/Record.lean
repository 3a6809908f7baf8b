import SqlAssembler.Toml.Basic

/-!
# Records in TOML

A record is written as a table, or as an array that lists its fields in their
order. A field may be required, may have a value of its own for when it is left
out, or may be absent; the last is possible in tables only.
-/

namespace SqlAssembler
namespace Toml

def string? : Toml → Option String
  | string value => some value
  | _ => none

def boolean? : Toml → Option Bool
  | boolean value => some value
  | _ => none

def countLimit : Int := 0x10000000000000000

def count? : Toml → Option UInt64
  | integer value =>
      if 0 ≤ value ∧ value < countLimit then
        some (UInt64.ofNat value.toNat)
      else none
  | _ => none

def list? {α : Type} (item : Toml → Option α) : Toml → Option (List α)
  | array items => items.mapM item
  | _ => none

structure RecordForm where
  names : List String
  /-- Whether a table may have keys beside the names of the fields. -/
  openTable : Bool
  /-- Whether an array may go on after the last field. -/
  openArray : Bool

structure Fields where
  entries : Entries
  listed : Bool

def RecordForm.fields? (form : RecordForm) : Toml → Option Fields
  | table entries =>
      let isField (entry : String × Toml) := form.names.contains entry.1
      if form.openTable || entries.all isField then some ⟨entries, false⟩
      else none
  | array items =>
      if form.openArray || items.length ≤ form.names.length then
        some ⟨form.names.zip items, true⟩
      else none
  | _ => none

namespace Fields

variable {α : Type}

def required? (fields : Fields) (name : String) (read : Toml → Option α) :
    Option α :=
  (lookup fields.entries name).bind read

def withDefault? (fields : Fields) (name : String) (read : Toml → Option α)
    (default : α) : Option α :=
  match lookup fields.entries name with
  | some value => read value
  | none => some default

def optional? (fields : Fields) (name : String) (read : Toml → Option α) :
    Option (Option α) :=
  match lookup fields.entries name with
  | some value => (read value).map some
  | none => if fields.listed then none else some none

end Fields
end Toml
end SqlAssembler
