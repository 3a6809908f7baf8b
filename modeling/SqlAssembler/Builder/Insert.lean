import SqlAssembler.Builder.Assignment
import SqlAssembler.Builder.Recording
import SqlAssembler.Query.Selection

/-!
# Building insertions

A column is recorded together with its value. The columns and the values that
the statement lists apart are read from these pairs, so there are as many of the
one as of the other, in the same order.
-/

namespace SqlAssembler

structure Insertion where
  table : Option Ident
  assignments : List Assignment

abbrev InsertBuilder := Builder Insertion

namespace Insertion

def setTable (name : String) : Edit Insertion := fun insertion =>
  (Ident.parse name).map fun table => { insertion with table := some table }

def assign (settings : Settings) (call : AssignCall) :
    Edit Insertion := fun insertion =>
  (call.apply settings insertion.assignments).map fun assignments =>
    { insertion with assignments }

def fragment (insertion : Insertion) : Except Error Fragment :=
  match insertion.table with
  | none => .error .missingTable
  | some table =>
      if insertion.assignments.isEmpty then
        .error (.validation .nothingToInsert)
      else
        let columns := insertion.assignments.map fun assignment =>
          assignment.column.sql
        let values := insertion.assignments.map fun assignment =>
          [assignment.value.piece]
        let head := "INSERT INTO " ++ table.sql ++ " (" ++
          Selection.commaList columns ++ ") VALUES ("
        .ok (.text head :: Fragment.separated ", " values ++ [.text ")"])

end Insertion

namespace InsertBuilder

def start (settings : Settings) (table : String) : InsertBuilder :=
  ⟨settings, (Recording.start ⟨none, []⟩).attempt (Insertion.setTable table)⟩

def record (builder : InsertBuilder) (call : AssignCall) : InsertBuilder :=
  { builder with
    recording := builder.recording.attempt
      (Insertion.assign builder.settings call) }

def recordAll (builder : InsertBuilder) (calls : List AssignCall) :
    InsertBuilder :=
  calls.foldl record builder

theorem recordAll_eq (builder : InsertBuilder) (calls : List AssignCall) :
    builder.recordAll calls =
      ⟨builder.settings,
        builder.recording.attemptAll
          (calls.map (Insertion.assign builder.settings))⟩ := by
  rw [List.map_eq_flatMap]
  exact Builder.foldl_record
    (fun settings (call : AssignCall) => [Insertion.assign settings call])
    (fun _ _ => rfl) builder calls

def statement (builder : InsertBuilder) : Except Error Statement := do
  let insertion ← builder.recording.checked
  return (← insertion.fragment).statement

end InsertBuilder
end SqlAssembler
