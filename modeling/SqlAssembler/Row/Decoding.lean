import SqlAssembler.Error
import SqlAssembler.Row.Nesting

/-!
# Decoding rows

A column of a row, or a whole row, is decoded to what the caller wants of it.
How a value is decoded is up to the caller; a value that is refused becomes an
error that names the column, or stands for the whole row.
-/

namespace SqlAssembler

/-- Makes an `α` of a value, or says why it is none. -/
abbrev Decoder (α : Type) := Json → Except String α

namespace Row

variable {α : Type}

def firstColumn (row : Row) : Option Json :=
  row.head?.map Prod.snd

def column (row : Row) (decode : Decoder α) (name : String) :
    Except Error α :=
  match row.get? name with
  | none => .error (.decode name "column not present")
  | some value => (decode value).mapError fun reason => .decode name reason

def record (decode : Decoder α) (row : Row) : Except Error α :=
  (decode (.object row)).mapError fun reason => .decode "<row>" reason

end Row
end SqlAssembler
