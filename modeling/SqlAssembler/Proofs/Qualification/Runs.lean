import SqlAssembler.Execution.Running
import SqlAssembler.Proofs.Qualification.Clauses
import SqlAssembler.Proofs.Scripts.Values

/-!
# Runs with and without qualification

Settings that differ in qualification only lead to runs that differ in nothing
but the owners in front of columns. No error, no result key, no bound value and
no nesting of rows depends on them.
-/

namespace SqlAssembler

open Recording

/-!
## Statements that can be written
-/

def Statement.SameParams (statement other : Statement) : Prop :=
  statement.params = other.params

theorem Script.agree_statement {script other : Script}
    (h : SameError script.fragment other.fragment)
    (hvalues : script.values = other.values) :
    Agree Statement.SameParams script.statement other.statement := by
  rw [statement_eq, statement_eq]
  rcases h.cases with ⟨error, hfirst, hsecond⟩ |
    ⟨fragment, otherFragment, hfirst, hsecond, _⟩
  · rw [hfirst, hsecond]
    exact .error error
  · rw [hfirst, hsecond]
    have hparams : fragment.params = otherFragment.params := by
      rw [params_fragment hfirst, params_fragment hsecond, hvalues]
    exact .ok hparams

theorem Aggregate.agree_target (aggregate : Aggregate) (owner : Option Ident)
    (column : Column) :
    SameError (aggregate.target column)
      (aggregate.target (column.ownedBy owner)) := by
  cases column with
  | wildcard table => exact .same (fun _ => trivial) _
  | call text label => exact .same (fun _ => trivial) _
  | plain ident label => exact .ok trivial
  | json base path label => exact .ok trivial

namespace Selection

variable {owners : Owners} {given qualified : Selection}

theorem Qualified.source (h : given.Qualified owners qualified) :
    SameError given.source qualified.source := by
  rw [Selection.source, Selection.source, h.table]
  cases given.table with
  | none => exact .error _
  | some table => exact h.conditions.render.map fun _ _ _ => trivial

theorem Qualified.rows (h : given.Qualified owners qualified) :
    SameError given.rows qualified.rows :=
  h.source.map fun _ _ _ => trivial

theorem Qualified.aggregated (h : given.Qualified owners qualified)
    (aggregate : Aggregate) (owner : Option Ident) (column : Column) :
    SameError (given.aggregated aggregate column)
      (qualified.aggregated aggregate (column.ownedBy owner)) := by
  rw [Selection.aggregated, Selection.aggregated]
  rcases (aggregate.agree_target owner column).cases with
    ⟨cause, hfirst, hsecond⟩ | ⟨target, other, hfirst, hsecond, _⟩
  · rw [hfirst, hsecond]
    exact .error _
  · rw [hfirst, hsecond]
    exact h.source.map fun _ _ _ => trivial

/-!
## Selections step by step
-/

theorem after_table (owners : Owners) (selection : Selection)
    (table : Option Ident) :
    owners.after selection { selection with table } = owners := by
  simp [Owners.after]

theorem Qualified.setTable (h : given.Qualified owners qualified)
    (name : String) :
    Agree (fun after other => after.Qualified (owners.after given after) other)
      (setTable name given) (setTable name qualified) := by
  rw [Selection.setTable, Selection.setTable, h.table, h.usesTable_eq]
  split
  · exact .error _
  · apply Agree.map_same
    intro table
    rw [after_table]
    exact { h with table := rfl }

theorem Qualified.attempt_setTable {recording other : Recording Selection}
    (h : recording.parts.Qualified owners other.parts)
    (hfailure : other.failure = recording.failure) (name : String) :
    (other.attempt (Selection.setTable name)).failure =
        (recording.attempt (Selection.setTable name)).failure ∧
      (recording.attempt (Selection.setTable name)).parts.Qualified
        (owners.after recording.parts
          (recording.attempt (Selection.setTable name)).parts)
        (other.attempt (Selection.setTable name)).parts := by
  rcases (h.setTable name).cases with ⟨error, hfirst, hsecond⟩ |
    ⟨after, otherAfter, hfirst, hsecond, hafter⟩
  · have hsame : owners.after recording.parts recording.parts = owners :=
      after_table owners recording.parts recording.parts.table
    rw [attempt_of_error hfirst, attempt_of_error hsecond, hfailure, hsame]
    exact ⟨rfl, h⟩
  · rw [attempt_of_ok hfirst, attempt_of_ok hsecond]
    exact ⟨hfailure, hafter⟩

theorem Qualified.attemptAll (functions : FunctionNames)
    {recording other : Recording Selection}
    (h : recording.parts.Qualified owners other.parts)
    (hfailure : other.failure = recording.failure) (call : SelectCall) :
    (other.attemptAll (call.edits (.qualifying functions))).failure =
        (recording.attemptAll (call.edits (.asGiven functions))).failure ∧
      (recording.attemptAll (call.edits (.asGiven functions))).parts.Qualified
        (owners.after recording.parts
          (recording.attemptAll (call.edits (.asGiven functions))).parts)
        (other.attemptAll (call.edits (.qualifying functions))).parts := by
  cases hset : call.setsTable with
  | true =>
      cases call with
      | setTable name => exact h.attempt_setTable hfailure name
      | _ => cases hset
  | false =>
      have hcall := h.extended functions call
      rw [← refusals_call hset, ← refusals_call hset, ← recorded_call hset,
        ← recorded_call hset] at hcall
      rw [parts_attemptAll, parts_attemptAll, failure_attemptAll_eq,
        failure_attemptAll_eq, hfailure, hcall.1]
      exact ⟨rfl, hcall.2⟩

end Selection

/-!
## Runs of selections
-/

namespace SelectBuilder

def ownersAfter : SelectBuilder → Owners → List SelectCall → Owners
  | _, owners, [] => owners
  | builder, owners, call :: rest =>
      ownersAfter (builder.record call)
        (owners.after builder.selection (builder.record call).selection) rest

def entryOwners (settings : Settings) (table : String)
    (calls : List SelectCall) : Owners :=
  ownersAfter (start settings table) .none calls

/-- The builders are the same but for the owners in front of columns. -/
structure SameButOwners (functions : FunctionNames) (owners : Owners)
    (given qualified : SelectBuilder) : Prop where
  givenSettings : given.settings = .asGiven functions
  qualifiedSettings : qualified.settings = .qualifying functions
  failure : qualified.recording.failure = given.recording.failure
  selection : given.selection.Qualified owners qualified.selection

variable {functions : FunctionNames} {owners : Owners}
  {given qualified : SelectBuilder}

theorem sameButOwners_start (functions : FunctionNames) (table : String) :
    SameButOwners functions .none (start (.asGiven functions) table)
      (start (.qualifying functions) table) := by
  rcases parts_start (.asGiven functions) table with ⟨owner, hparts⟩
  have hselection : (start (.asGiven functions) table).selection =
      { Selection.empty with table := owner } := hparts
  have hqualified : (start (.qualifying functions) table).selection =
      { Selection.empty with table := owner } := hparts
  refine ⟨rfl, rfl, rfl, ?_⟩
  rw [hselection, hqualified]
  exact ⟨rfl, rfl, .nil, .nil, rfl, .nil, .nil, rfl, rfl⟩

theorem SameButOwners.record
    (h : SameButOwners functions owners given qualified) (call : SelectCall) :
    SameButOwners functions
      (owners.after given.selection (given.record call).selection)
      (given.record call) (qualified.record call) := by
  have hcall := h.selection.attemptAll functions h.failure call
  rw [← h.givenSettings, ← h.qualifiedSettings] at hcall
  exact ⟨h.givenSettings, h.qualifiedSettings, hcall.1, hcall.2⟩

theorem SameButOwners.recordAll
    (h : SameButOwners functions owners given qualified)
    (calls : List SelectCall) :
    SameButOwners functions (given.ownersAfter owners calls)
      (given.recordAll calls) (qualified.recordAll calls) := by
  induction calls generalizing given qualified owners with
  | nil => exact h
  | cons call rest ih => exact ih (h.record call)

theorem SameButOwners.checked
    (h : SameButOwners functions owners given qualified) :
    Agree (fun first second => first.Qualified owners second)
      given.recording.checked qualified.recording.checked := by
  rw [Recording.checked, Recording.checked, h.failure]
  cases given.recording.failure with
  | some error => exact .error error
  | none => exact .ok h.selection

theorem SameButOwners.nesting_eq
    (h : SameButOwners functions owners given qualified) :
    qualified.nesting = given.nesting := by
  have hplacements := h.selection.columns.map_eq Column.placement?_ownedBy
  have hmapped : ∀ columns : List Column,
      columns.filterMap Nesting.placement? =
        (columns.map Nesting.placement?).filterMap id := by
    intro columns
    rw [List.filterMap_map]
    rfl
  rw [nesting, nesting, Nesting.ofColumns, Nesting.ofColumns, hmapped, hmapped,
    hplacements]

variable (functions : FunctionNames) (table : String) (calls : List SelectCall)

theorem sameButOwners_recordAll :
    SameButOwners functions (entryOwners (.asGiven functions) table calls)
      ((start (.asGiven functions) table).recordAll calls)
      ((start (.qualifying functions) table).recordAll calls) :=
  (sameButOwners_start functions table).recordAll calls

/-- A table that cannot be read at first can still be set later. -/
example : (entryOwners (.asGiven .builtin) "" [.select ["a"], .setTable "t",
    .select ["b"]]).columns = [none, some ⟨[⟨"t", false⟩]⟩] := by
  cbv

theorem agree_statement :
    Agree Statement.SameParams
      ((start (.asGiven functions) table).recordAll calls).statement
      ((start (.qualifying functions) table).recordAll calls).statement := by
  have hsame := sameButOwners_recordAll functions table calls
  have hfragment : SameError
      (Script.select (.asGiven functions) table calls).fragment
      (Script.select (.qualifying functions) table calls).fragment :=
    hsame.checked.bind fun _ _ hselection => hselection.rows
  exact Script.agree_statement hfragment rfl

theorem agree_aggregateStatement (function column : String) :
    Agree Statement.SameParams
      (((start (.asGiven functions) table).recordAll calls).aggregateStatement
        function column)
      (((start (.qualifying functions) table).recordAll
        calls).aggregateStatement function column) := by
  have hsame := sameButOwners_recordAll functions table calls
  have hfragment : SameError
      (Script.aggregate (.asGiven functions) table calls function
        column).fragment
      (Script.aggregate (.qualifying functions) table calls function
        column).fragment := by
    refine hsame.checked.bind fun first second hselection => ?_
    refine Agree.bind_same fun aggregate _ => ?_
    rw [hselection.table,
      Column.parseAggregateTarget_qualifying functions _ first.table]
    cases Column.parseAggregateTarget (.asGiven functions) first.table
        column with
    | error error => exact .error error
    | ok argument =>
        exact hselection.aggregated aggregate first.table argument
  exact Script.agree_statement hfragment rfl

end SelectBuilder
/-!
## Updates and deletions
-/

structure Update.SameButOwners (given qualified : Update) : Prop where
  table : qualified.table = given.table
  assignments : qualified.assignments = given.assignments
  conditions : given.conditions.SameShape qualified.conditions

structure Deletion.SameButOwners (given qualified : Deletion) : Prop where
  table : qualified.table = given.table
  conditions : given.conditions.SameShape qualified.conditions
  allRows : qualified.allRows = given.allRows

variable (functions : FunctionNames)

theorem UpdateCall.corresponds (call : UpdateCall) :
    Corresponds Update.SameButOwners (call.edit (.asGiven functions))
      (call.edit (.qualifying functions)) := by
  intro given qualified h
  cases call with
  | assign call =>
      have happly : call.apply (.qualifying functions) given.assignments =
          call.apply (.asGiven functions) given.assignments := by
        cases call <;> rfl
      rw [edit, edit, Update.assign, Update.assign, h.assignments, happly]
      apply Agree.map_same
      intro assignments
      exact ⟨h.table, rfl, h.conditions⟩
  | filter call =>
      rw [edit, edit, Update.addFilter, Update.addFilter, h.table]
      apply (call.agree_apply functions given.table h.conditions).map
      intro conditions others hconditions
      exact ⟨rfl, h.assignments, hconditions⟩

theorem DeleteCall.corresponds (call : DeleteCall) :
    Corresponds Deletion.SameButOwners (call.edit (.asGiven functions))
      (call.edit (.qualifying functions)) := by
  intro given qualified h
  cases call with
  | allowAllRows allow => exact .ok ⟨h.table, h.conditions, rfl⟩
  | filter call =>
      rw [edit, edit, Deletion.addFilter, Deletion.addFilter, h.table]
      apply (call.agree_apply functions given.table h.conditions).map
      intro conditions others hconditions
      exact ⟨rfl, hconditions, h.allRows⟩

theorem Update.SameButOwners.fragment {given qualified : Update}
    (h : given.SameButOwners qualified) :
    SameError given.fragment qualified.fragment := by
  rw [Update.fragment, Update.fragment, h.table, h.assignments]
  cases given.table with
  | none => exact .error _
  | some table =>
      dsimp only
      split
      · exact .error _
      · exact h.conditions.render.map fun _ _ _ => trivial

theorem Deletion.SameButOwners.fragment {given qualified : Deletion}
    (h : given.SameButOwners qualified) :
    SameError given.fragment qualified.fragment := by
  have hrestriction :
      SameError given.restriction qualified.restriction := by
    rw [restriction, restriction, h.conditions.isEmpty_eq]
    split
    · exact .ok trivial
    · exact h.conditions.render
  rw [Deletion.fragment, Deletion.fragment, h.table]
  cases given.table with
  | none => exact .error _
  | some table => exact hrestriction.map fun _ _ _ => trivial

variable (table : String)

theorem UpdateBuilder.alike_recordAll (calls : List UpdateCall) :
    Recording.Alike Update.SameButOwners
      ((start (.asGiven functions) table).recordAll calls).recording
      ((start (.qualifying functions) table).recordAll calls).recording := by
  have hstart : Recording.Alike Update.SameButOwners
      (start (.asGiven functions) table).recording
      (start (.qualifying functions) table).recording :=
    ⟨⟨rfl, rfl, rfl⟩, rfl⟩
  rw [recordAll_eq, recordAll_eq]
  apply hstart.attemptAll
  rw [List.forall₂_map_left_iff, List.forall₂_map_right_iff, List.forall₂_same]
  exact fun call _ => call.corresponds functions

theorem DeleteBuilder.alike_recordAll (calls : List DeleteCall) :
    Recording.Alike Deletion.SameButOwners
      ((start (.asGiven functions) table).recordAll calls).recording
      ((start (.qualifying functions) table).recordAll calls).recording := by
  have hstart : Recording.Alike Deletion.SameButOwners
      (start (.asGiven functions) table).recording
      (start (.qualifying functions) table).recording :=
    ⟨⟨rfl, rfl, rfl⟩, rfl⟩
  rw [recordAll_eq, recordAll_eq]
  apply hstart.attemptAll
  rw [List.forall₂_map_left_iff, List.forall₂_map_right_iff, List.forall₂_same]
  exact fun call _ => call.corresponds functions

theorem UpdateBuilder.agree_statement (calls : List UpdateCall) :
    Agree Statement.SameParams
      ((start (.asGiven functions) table).recordAll calls).statement
      ((start (.qualifying functions) table).recordAll calls).statement := by
  have hsame := alike_recordAll functions table calls
  have hfragment : SameError
      (Script.update (.asGiven functions) table calls).fragment
      (Script.update (.qualifying functions) table calls).fragment :=
    hsame.checked.bind fun _ _ hupdate => hupdate.fragment
  exact Script.agree_statement hfragment rfl

theorem DeleteBuilder.agree_statement (calls : List DeleteCall) :
    Agree Statement.SameParams
      ((start (.asGiven functions) table).recordAll calls).statement
      ((start (.qualifying functions) table).recordAll calls).statement := by
  have hsame := alike_recordAll functions table calls
  have hfragment : SameError
      (Script.delete (.asGiven functions) table calls).fragment
      (Script.delete (.qualifying functions) table calls).fragment :=
    hsame.checked.bind fun _ _ hdeletion => hdeletion.fragment
  exact Script.agree_statement hfragment rfl

/-!
## Transparency
-/

/-- Two runs of the same calls, one of them with qualification, leave the same
error or none. Their statements cannot be written for the same reason or bind
the same values, and rows get the same keys and the same shape. What is recorded
is the same, but that each column which was given as a single name has the table
of that time in front, and on the right of a join the joined table. -/
theorem qualification_transparent (functions : FunctionNames)
    (table : String) :
    (∀ calls : List SelectCall,
      let given :=
        (SelectBuilder.start (.asGiven functions) table).recordAll calls
      let qualified :=
        (SelectBuilder.start (.qualifying functions) table).recordAll calls
      qualified.recording.failure = given.recording.failure ∧
      Agree Statement.SameParams given.statement qualified.statement ∧
      (∀ function column, Agree Statement.SameParams
        (given.aggregateStatement function column)
        (qualified.aggregateStatement function column)) ∧
      qualified.selection.columns.map Column.resultKey =
        given.selection.columns.map Column.resultKey ∧
      qualified.nesting = given.nesting ∧
      given.selection.Qualified
        (SelectBuilder.entryOwners (.asGiven functions) table calls)
        qualified.selection) ∧
    (∀ calls : List UpdateCall,
      let given :=
        (UpdateBuilder.start (.asGiven functions) table).recordAll calls
      let qualified :=
        (UpdateBuilder.start (.qualifying functions) table).recordAll calls
      qualified.recording.failure = given.recording.failure ∧
      Agree Statement.SameParams given.statement qualified.statement) ∧
    ∀ calls : List DeleteCall,
      let given :=
        (DeleteBuilder.start (.asGiven functions) table).recordAll calls
      let qualified :=
        (DeleteBuilder.start (.qualifying functions) table).recordAll calls
      qualified.recording.failure = given.recording.failure ∧
      Agree Statement.SameParams given.statement qualified.statement := by
  refine ⟨fun calls => ?_, fun calls => ?_, fun calls => ?_⟩
  · have hsame := SelectBuilder.sameButOwners_recordAll functions table calls
    exact ⟨hsame.failure,
      SelectBuilder.agree_statement functions table calls,
      SelectBuilder.agree_aggregateStatement functions table calls,
      hsame.selection.resultKeys_eq, hsame.nesting_eq, hsame.selection⟩
  · exact ⟨(UpdateBuilder.alike_recordAll functions table calls).failure.symm,
      UpdateBuilder.agree_statement functions table calls⟩
  · exact ⟨(DeleteBuilder.alike_recordAll functions table calls).failure.symm,
      DeleteBuilder.agree_statement functions table calls⟩

end SqlAssembler
