import SqlAssembler.Column
import SqlAssembler.Json.Reader

/-!
# Nesting of extracted columns

The database returns the value at a path of a JSON column under one flat key.
Nesting moves such values back to where they came from: it opens the containers
along the path, decoding JSON text and filling nulls on the way, and stores the
value at the end. Values under labels that the caller wrote stay where they are,
and so does a value whose way is blocked by data of another kind.

The lengths of arrays are words. An index that no array of such a length can
have ends the whole run, for which the result is `none` here.
-/

namespace SqlAssembler

abbrev Row := Members

/-- A flat key of a result row, and the column and path its value belongs to. -/
structure Placement where
  flat : String
  column : String
  path : List String
  deriving DecidableEq, Repr

/-!
## Storing at a path
-/

def greatestIndex : Nat := 0xFFFFFFFFFFFFFFFF

def indexOfKey? (key : String) : Option Nat :=
  let cs := key.toList
  let index := Decimal.ofDigits cs
  if cs.isEmpty || !cs.all Char.isDigit || greatestIndex < index then none
  else some index

/-- The length of an array that has been grown until it has the index. After the
largest word comes zero. -/
def grownLength (length index : UInt64) : UInt64 :=
  if length ≤ index then index + 1 else length

def setItem (items : List Json) (index : Nat) (value : Json) :
    Option (List Json) :=
  let length := grownLength items.length.toUInt64 index.toUInt64
  let grown := items ++ List.replicate (length.toNat - items.length) .null
  if index < grown.length then some (grown.set index value) else none

namespace Json

/-- A container that the key can address: the value itself, the container that a
JSON text holds, or a new one in place of a null. -/
def opened (value : Json) (key : String) : Option Json :=
  let isIndex := (indexOfKey? key).isSome
  match value with
  | object members => some (object members)
  | array items => if isIndex then some (array items) else none
  | null => some (if isIndex then array [] else object [])
  | string raw =>
      match read? raw with
      | some (object members) => some (object members)
      | some (array items) => if isIndex then some (array items) else none
      | _ => none
  | _ => none

def child (container : Json) (key : String) : Json :=
  match container with
  | object members => (Members.get? members key).getD null
  | array items => ((indexOfKey? key).bind fun index => items[index]?).getD null
  | _ => null

def setChild (container : Json) (key : String) (value : Json) : Option Json :=
  match container with
  | object members => some (object (Members.set members key value))
  | array items =>
      match indexOfKey? key with
      | some index => (setItem items index value).map array
      | none => some container
  | _ => some container

/-- Stores a value at a path below `slot`: the slot after the attempt, and
whether the value found its place. Containers opened before an obstacle stay
open. -/
def store (slot : Json) : List String → Json → Option (Json × Bool)
  | [], value => some (value, true)
  | key :: rest, value =>
      match slot.opened key with
      | none => some (slot, false)
      | some container => do
          let (inner, stored) ← store (container.child key) rest value
          let filled ← container.setChild key inner
          return (filled, stored)

end Json

namespace Placement

def move (placement : Placement) (row : Row) : Option Row :=
  match row.get? placement.flat with
  | none => some row
  | some value => do
      let slot := (row.get? placement.column).getD .null
      let (filled, stored) ← slot.store placement.path value
      let row := row.set placement.column filled
      return if stored then row.erase placement.flat else row

end Placement

/-!
## Whole rows
-/

structure Nesting where
  placements : List Placement
  deriving DecidableEq, Repr

namespace Nesting

/-- Only a JSON extraction that was given no label of its own is moved. -/
def placement? : Column → Option Placement
  | .json base path none =>
      (Column.json base path none).resultKey.map fun flat =>
        ⟨flat, base.name, path⟩
  | _ => none

def ofColumns (columns : List Column) : Nesting :=
  ⟨columns.filterMap placement?⟩

def isEmpty (nesting : Nesting) : Bool :=
  nesting.placements.isEmpty

def apply (nesting : Nesting) (row : Row) : Option Row :=
  nesting.placements.foldlM (fun row placement => placement.move row) row

def applyAll (nesting : Nesting) (rows : List Row) : Option (List Row) :=
  rows.mapM nesting.apply

end Nesting
end SqlAssembler
