import SqlAssembler.Builder.Delete
import SqlAssembler.Builder.Insert
import SqlAssembler.Builder.Select
import SqlAssembler.Builder.Update
import SqlAssembler.Proofs.Grammar.Columns
import SqlAssembler.Proofs.Results

/-!
# Scripts

A script is all that a caller does before asking for a statement: the settings,
the table, the recording calls in their order, and for an aggregate its function
and column. Statements about every builder are statements about every script.
-/

namespace SqlAssembler

inductive Script where
  | select (settings : Settings) (table : String) (calls : List SelectCall)
  | aggregate (settings : Settings) (table : String) (calls : List SelectCall)
      (function column : String)
  | insert (settings : Settings) (table : String) (calls : List AssignCall)
  | update (settings : Settings) (table : String) (calls : List UpdateCall)
  | delete (settings : Settings) (table : String) (calls : List DeleteCall)

/-!
## Embedded calls
-/

def FunctionNames.embedded (functions : FunctionNames) (value : String) :
    List String :=
  match functions.embeds value with
  | .ok true => [value]
  | _ => []

def FilterCall.embedded (functions : FunctionNames) :
    FilterCall → List String
  | filter _ _ _ value => functions.embedded value
  | filterBy _ _ value => functions.embedded value
  | openGroup _ => []
  | closeGroup => []

def AssignCall.embedded (functions : FunctionNames) :
    AssignCall → List String
  | setFunction _ call => functions.embedded call
  | _ => []

def SelectCall.embedded (settings : Settings) : SelectCall → List String
  | select columns => columns.filterMap (Column.projectedCall? settings)
  | filter call => call.embedded settings.functions
  | _ => []

def UpdateCall.embedded (functions : FunctionNames) :
    UpdateCall → List String
  | assign call => call.embedded functions
  | filter call => call.embedded functions

def DeleteCall.embedded (functions : FunctionNames) :
    DeleteCall → List String
  | allowAllRows _ => []
  | filter call => call.embedded functions

namespace Script

def settings : Script → Settings
  | select settings _ _ => settings
  | aggregate settings _ _ _ _ => settings
  | insert settings _ _ => settings
  | update settings _ _ => settings
  | delete settings _ _ => settings

/-- The texts of calls that the statement takes over as they are. -/
def embedded : Script → List String
  | select settings _ calls => calls.flatMap (SelectCall.embedded settings)
  | aggregate settings _ calls _ _ =>
      calls.flatMap (SelectCall.embedded settings)
  | insert settings _ calls =>
      calls.flatMap (AssignCall.embedded settings.functions)
  | update settings _ calls =>
      calls.flatMap (UpdateCall.embedded settings.functions)
  | delete settings _ calls =>
      calls.flatMap (DeleteCall.embedded settings.functions)

def statement : Script → Except Error Statement
  | select settings table calls =>
      ((SelectBuilder.start settings table).recordAll calls).statement
  | aggregate settings table calls function column =>
      ((SelectBuilder.start settings table).recordAll calls).aggregateStatement
        function column
  | insert settings table calls =>
      ((InsertBuilder.start settings table).recordAll calls).statement
  | update settings table calls =>
      ((UpdateBuilder.start settings table).recordAll calls).statement
  | delete settings table calls =>
      ((DeleteBuilder.start settings table).recordAll calls).statement

def fragment : Script → Except Error Fragment
  | select settings table calls => do
      let builder := (SelectBuilder.start settings table).recordAll calls
      (← builder.recording.checked).rows
  | aggregate settings table calls function column => do
      let builder := (SelectBuilder.start settings table).recordAll calls
      let selection ← builder.recording.checked
      let aggregate ← Aggregate.parse function
      let column ←
        Column.parseAggregateTarget settings selection.table column
      selection.aggregated aggregate column
  | insert settings table calls => do
      let builder := (InsertBuilder.start settings table).recordAll calls
      (← builder.recording.checked).fragment
  | update settings table calls => do
      let builder := (UpdateBuilder.start settings table).recordAll calls
      (← builder.recording.checked).fragment
  | delete settings table calls => do
      let builder := (DeleteBuilder.start settings table).recordAll calls
      (← builder.recording.checked).fragment

theorem bind_statement {σ : Type} (checked : Except Error σ)
    (write : σ → Except Error Fragment) :
    (do let parts ← checked
        return (← write parts).statement) =
      (checked >>= write).map Fragment.statement := by
  cases checked with
  | error error => rfl
  | ok parts =>
      change (write parts >>= _) = (write parts).map _
      cases write parts <;> rfl

theorem statement_eq (script : Script) :
    script.statement = script.fragment.map Fragment.statement := by
  cases script with
  | select settings table calls => exact bind_statement _ _
  | aggregate settings table calls function column =>
      rw [statement, fragment, SelectBuilder.aggregateStatement,
        SelectBuilder.recordAll_eq]
      dsimp only
      generalize Recording.checked _ = checked
      cases checked with
      | error error => rfl
      | ok selection =>
          change (Aggregate.parse function >>= _) = Except.map _ _
          cases Aggregate.parse function with
          | error error => rfl
          | ok aggregate => exact bind_statement _ (selection.aggregated aggregate)
  | insert settings table calls => exact bind_statement _ _
  | update settings table calls => exact bind_statement _ _
  | delete settings table calls => exact bind_statement _ _

end Script

/-!
## Starting

Before the first call nothing but the table is recorded, and not even that if
its name is refused.
-/

theorem SelectBuilder.parts_start (settings : Settings) (table : String) :
    ∃ owner, (start settings table).recording.parts =
      { Selection.empty with table := owner } := by
  rcases Recording.parts_attempt (.start .empty)
    (Selection.setTable table) with h | h
  · exact ⟨none, h⟩
  · rcases map_eq_ok_iff.mp h with ⟨owner, _, hparts⟩
    exact ⟨some owner, hparts⟩

theorem InsertBuilder.parts_start (settings : Settings) (table : String) :
    ∃ owner, (start settings table).recording.parts = ⟨owner, []⟩ := by
  rcases Recording.parts_attempt (.start ⟨none, []⟩)
    (Insertion.setTable table) with h | h
  · exact ⟨none, h⟩
  · rcases map_eq_ok_iff.mp h with ⟨owner, _, hparts⟩
    exact ⟨some owner, hparts⟩

theorem UpdateBuilder.parts_start (settings : Settings) (table : String) :
    ∃ owner, (start settings table).recording.parts = ⟨owner, [], .empty⟩ := by
  rcases Recording.parts_attempt (.start ⟨none, [], .empty⟩)
    (Update.setTable table) with h | h
  · exact ⟨none, h⟩
  · rcases map_eq_ok_iff.mp h with ⟨owner, _, hparts⟩
    exact ⟨some owner, hparts⟩

theorem DeleteBuilder.parts_start (settings : Settings) (table : String) :
    ∃ owner, (start settings table).recording.parts =
      ⟨owner, .empty, false⟩ := by
  rcases Recording.parts_attempt (.start ⟨none, .empty, false⟩)
    (Deletion.setTable table) with h | h
  · exact ⟨none, h⟩
  · rcases map_eq_ok_iff.mp h with ⟨owner, _, hparts⟩
    exact ⟨some owner, hparts⟩

/-!
## Embedded calls are checked calls
-/

theorem FunctionNames.mem_embedded_iff {functions : FunctionNames}
    {value text : String} :
    text ∈ functions.embedded value ↔
      text = value ∧ functions.embeds value = .ok true := by
  rw [embedded]
  split
  · rename_i hembeds
    simp [hembeds]
  · rename_i hnot
    constructor
    · intro h
      cases h
    · intro h
      exact absurd h.2 hnot

theorem FunctionNames.embeds_of_mem_embedded {functions : FunctionNames}
    {value text : String} (h : text ∈ functions.embedded value) :
    functions.embeds text = .ok true := by
  rcases mem_embedded_iff.mp h with ⟨rfl, hembeds⟩
  exact hembeds

theorem FunctionNames.mem_embedded {functions : FunctionNames} {value : String}
    (h : functions.embeds value = .ok true) :
    value ∈ functions.embedded value :=
  mem_embedded_iff.mpr ⟨rfl, h⟩

theorem FilterCall.embeds_of_mem_embedded {functions : FunctionNames}
    {call : FilterCall} {text : String} (h : text ∈ call.embedded functions) :
    functions.embeds text = .ok true := by
  cases call with
  | filter connector column operator value =>
      exact FunctionNames.embeds_of_mem_embedded h
  | filterBy column operator value =>
      exact FunctionNames.embeds_of_mem_embedded h
  | openGroup connector => cases h
  | closeGroup => cases h

theorem AssignCall.embeds_of_mem_embedded {functions : FunctionNames}
    {call : AssignCall} {text : String} (h : text ∈ call.embedded functions) :
    functions.embeds text = .ok true := by
  cases call with
  | set column value => cases h
  | setOptional column value => cases h
  | setFunction column call => exact FunctionNames.embeds_of_mem_embedded h

theorem SelectCall.embeds_of_mem_embedded {settings : Settings}
    {call : SelectCall} {text : String} (h : text ∈ call.embedded settings) :
    settings.functions.embeds text = .ok true := by
  cases call with
  | select columns =>
      rcases List.mem_filterMap.mp h with ⟨raw, _, hcall⟩
      exact Column.embeds_of_projectedCall? hcall
  | filter call => exact FilterCall.embeds_of_mem_embedded h
  | _ => cases h

theorem Script.embeds_of_mem_embedded {script : Script} {text : String}
    (h : text ∈ script.embedded) :
    script.settings.functions.embeds text = .ok true := by
  cases script with
  | select settings table calls =>
      rcases List.mem_flatMap.mp h with ⟨call, _, hcall⟩
      exact SelectCall.embeds_of_mem_embedded hcall
  | aggregate settings table calls function column =>
      rcases List.mem_flatMap.mp h with ⟨call, _, hcall⟩
      exact SelectCall.embeds_of_mem_embedded hcall
  | insert settings table calls =>
      rcases List.mem_flatMap.mp h with ⟨call, _, hcall⟩
      exact AssignCall.embeds_of_mem_embedded hcall
  | update settings table calls =>
      rcases List.mem_flatMap.mp h with ⟨call, _, hcall⟩
      cases call with
      | assign call => exact AssignCall.embeds_of_mem_embedded hcall
      | filter call => exact FilterCall.embeds_of_mem_embedded hcall
  | delete settings table calls =>
      rcases List.mem_flatMap.mp h with ⟨call, _, hcall⟩
      cases call with
      | allowAllRows allow => cases hcall
      | filter call => exact FilterCall.embeds_of_mem_embedded hcall

end SqlAssembler
