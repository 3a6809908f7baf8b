import SqlAssembler.Builder.Filtering
import SqlAssembler.Builder.Recording

/-!
# Building deletions

A deletion without conditions removes nothing, unless it was explicitly allowed
to remove all rows.
-/

namespace SqlAssembler

structure Deletion where
  table : Option Ident
  conditions : Conditions
  allRows : Bool

inductive DeleteCall where
  | allowAllRows (allow : Bool)
  | filter (call : FilterCall)

abbrev DeleteBuilder := Builder Deletion

namespace Deletion

def setTable (name : String) : Edit Deletion := fun deletion =>
  (Ident.parse name).map fun table => { deletion with table := some table }

def addFilter (settings : Settings) (call : FilterCall) :
    Edit Deletion := fun deletion =>
  (call.apply settings deletion.table deletion.conditions).map fun conditions =>
    { deletion with conditions }

def noRows : Fragment :=
  [.text " WHERE 1=0"]

def restriction (deletion : Deletion) : Except Error Fragment :=
  if deletion.conditions.isEmpty then
    .ok (if deletion.allRows then [] else noRows)
  else deletion.conditions.render

def fragment (deletion : Deletion) : Except Error Fragment :=
  match deletion.table with
  | none => .error .missingTable
  | some table =>
      deletion.restriction.map fun restriction =>
        .text ("DELETE FROM " ++ table.sql) :: restriction

end Deletion

def DeleteCall.edit (settings : Settings) : DeleteCall → Edit Deletion
  | allowAllRows allow =>
      fun deletion => .ok { deletion with allRows := allow }
  | filter call => Deletion.addFilter settings call

namespace DeleteBuilder

def start (settings : Settings) (table : String) : DeleteBuilder :=
  ⟨settings, (Recording.start ⟨none, .empty, false⟩).attempt
    (Deletion.setTable table)⟩

def record (builder : DeleteBuilder) (call : DeleteCall) : DeleteBuilder :=
  { builder with
    recording := builder.recording.attempt (call.edit builder.settings) }

def recordAll (builder : DeleteBuilder) (calls : List DeleteCall) :
    DeleteBuilder :=
  calls.foldl record builder

theorem recordAll_eq (builder : DeleteBuilder) (calls : List DeleteCall) :
    builder.recordAll calls =
      ⟨builder.settings,
        builder.recording.attemptAll
          (calls.map (DeleteCall.edit builder.settings))⟩ := by
  rw [List.map_eq_flatMap]
  exact Builder.foldl_record
    (fun settings (call : DeleteCall) => [call.edit settings])
    (fun _ _ => rfl) builder calls

def statement (builder : DeleteBuilder) : Except Error Statement := do
  let deletion ← builder.recording.checked
  return (← deletion.fragment).statement

end DeleteBuilder
end SqlAssembler
