import SqlAssembler.Builder.Assignment
import SqlAssembler.Builder.Filtering
import SqlAssembler.Builder.Recording

/-!
# Building updates

The assignments come before the conditions in the statement, and so do their
values.
-/

namespace SqlAssembler

structure Update where
  table : Option Ident
  assignments : List Assignment
  conditions : Conditions

inductive UpdateCall where
  | assign (call : AssignCall)
  | filter (call : FilterCall)

abbrev UpdateBuilder := Builder Update

namespace Update

def setTable (name : String) : Edit Update := fun update =>
  (Ident.parse name).map fun table => { update with table := some table }

def assign (settings : Settings) (call : AssignCall) :
    Edit Update := fun update =>
  (call.apply settings update.assignments).map fun assignments =>
    { update with assignments }

def addFilter (settings : Settings) (call : FilterCall) :
    Edit Update := fun update =>
  (call.apply settings update.table update.conditions).map fun conditions =>
    { update with conditions }

def assignmentFragment (assignment : Assignment) : Fragment :=
  [.text (assignment.column.sql ++ " = "), assignment.value.piece]

def fragment (update : Update) : Except Error Fragment :=
  match update.table with
  | none => .error .missingTable
  | some table =>
      if update.assignments.isEmpty then .error (.validation .nothingToSet)
      else
        let assigned :=
          Fragment.separated ", " (update.assignments.map assignmentFragment)
        update.conditions.render.map fun conditions =>
          .text ("UPDATE " ++ table.sql ++ " SET ") :: assigned ++ conditions

end Update

def UpdateCall.edit (settings : Settings) : UpdateCall → Edit Update
  | assign call => Update.assign settings call
  | filter call => Update.addFilter settings call

namespace UpdateBuilder

def start (settings : Settings) (table : String) : UpdateBuilder :=
  ⟨settings, (Recording.start ⟨none, [], .empty⟩).attempt
    (Update.setTable table)⟩

def record (builder : UpdateBuilder) (call : UpdateCall) : UpdateBuilder :=
  { builder with
    recording := builder.recording.attempt (call.edit builder.settings) }

def recordAll (builder : UpdateBuilder) (calls : List UpdateCall) :
    UpdateBuilder :=
  calls.foldl record builder

theorem recordAll_eq (builder : UpdateBuilder) (calls : List UpdateCall) :
    builder.recordAll calls =
      ⟨builder.settings,
        builder.recording.attemptAll
          (calls.map (UpdateCall.edit builder.settings))⟩ := by
  rw [List.map_eq_flatMap]
  exact Builder.foldl_record
    (fun settings (call : UpdateCall) => [call.edit settings])
    (fun _ _ => rfl) builder calls

def statement (builder : UpdateBuilder) : Except Error Statement := do
  let update ← builder.recording.checked
  return (← update.fragment).statement

end UpdateBuilder
end SqlAssembler
