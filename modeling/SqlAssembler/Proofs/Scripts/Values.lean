import SqlAssembler.Proofs.Results
import SqlAssembler.Proofs.Scripts.Recorded
import SqlAssembler.Proofs.Scripts.Written

/-!
# The values of a script

Which values a script binds, and in which order, can be told from its calls
alone: each call binds the values of its own, in the order of the calls. Only an
update is different, because its assignments are written before its conditions.
-/

namespace SqlAssembler

/-!
## Values of calls
-/

def Filter.values (functions : FunctionNames) (operator : Operator)
    (value : String) : List Param :=
  match functions.embeds value with
  | .ok false =>
      match operator with
      | .comparison _ => if value.isEmpty then [] else [.text value]
      | .pattern shape => [.text (shape.part.wrap value)]
      | .membership _ => elements value
      | .nullness _ => []
  | _ => []

def FilterCall.values (functions : FunctionNames) : FilterCall → List Param
  | filter _ _ operator value =>
      match Operator.parse operator with
      | .ok operator => Filter.values functions operator value
      | .error _ => []
  | filterBy _ operator value => Filter.values functions operator value
  | openGroup _ => []
  | closeGroup => []

def AssignCall.values : AssignCall → List Param
  | set _ value => [value]
  | setOptional _ value => value.toList
  | setFunction _ _ => []

def SelectCall.values (functions : FunctionNames) : SelectCall → List Param
  | filter call => call.values functions
  | _ => []

def UpdateCall.assignedValues : UpdateCall → List Param
  | assign call => call.values
  | filter _ => []

def UpdateCall.comparedValues (functions : FunctionNames) :
    UpdateCall → List Param
  | assign _ => []
  | filter call => call.values functions

def DeleteCall.values (functions : FunctionNames) : DeleteCall → List Param
  | allowAllRows _ => []
  | filter call => call.values functions

def Script.values : Script → List Param
  | select settings _ calls =>
      calls.flatMap (SelectCall.values settings.functions)
  | aggregate settings _ calls _ _ =>
      calls.flatMap (SelectCall.values settings.functions)
  | insert _ _ calls => calls.flatMap AssignCall.values
  | update settings _ calls =>
      calls.flatMap UpdateCall.assignedValues ++
        calls.flatMap (UpdateCall.comparedValues settings.functions)
  | delete settings _ calls =>
      calls.flatMap (DeleteCall.values settings.functions)

/-!
## Values that edits add
-/

namespace Recording

variable {σ κ : Type} {held : σ → List Param}

def Adds (held : σ → List Param) (edits : List (Edit σ))
    (values : List Param) : Prop :=
  ∀ recording : Recording σ, (recording.attemptAll edits).failure = none →
    held (recording.attemptAll edits).parts = held recording.parts ++ values

theorem adds_nil : Adds held [] [] := by
  intro recording _
  simp [attemptAll]

theorem Adds.append {edits later : List (Edit σ)} {values more : List Param}
    (hfirst : Adds held edits values) (hlater : Adds held later more) :
    Adds held (edits ++ later) (values ++ more) := by
  intro recording h
  rw [attemptAll_append] at h ⊢
  have hmiddle : (recording.attemptAll edits).failure = none := by
    cases hfailure : (recording.attemptAll edits).failure with
    | none => rfl
    | some error =>
        rw [failure_attemptAll later hfailure] at h
        cases h
  rw [hlater _ h, hfirst _ hmiddle, List.append_assoc]

theorem adds_single {edit : Edit σ} {values : List Param}
    (h : ∀ parts after, edit parts = .ok after →
      held after = held parts ++ values) :
    Adds held [edit] values := by
  intro recording hnone
  show held (recording.attempt edit).parts = _
  replace hnone : (recording.attempt edit).failure = none := hnone
  cases hedit : edit recording.parts with
  | ok after =>
      rw [attempt_of_ok hedit]
      exact h recording.parts after hedit
  | error error =>
      rw [attempt_of_error hedit] at hnone
      cases hfailure : recording.failure with
      | none => simp [hfailure] at hnone
      | some first => simp [hfailure] at hnone

theorem adds_flatMap {edits : κ → List (Edit σ)} {values : κ → List Param}
    (h : ∀ call, Adds held (edits call) (values call)) (calls : List κ) :
    Adds held (calls.flatMap edits) (calls.flatMap values) := by
  induction calls with
  | nil => exact adds_nil
  | cons call rest ih => exact (h call).append ih

theorem adds_map {edit : κ → Edit σ} {values : κ → List Param}
    (h : ∀ call parts after, edit call parts = .ok after →
      held after = held parts ++ values call)
    (calls : List κ) :
    Adds held (calls.map edit) (calls.flatMap values) := by
  induction calls with
  | nil => exact adds_nil
  | cons call rest ih => exact (adds_single (h call)).append ih

end Recording

/-!
## Conditions
-/

variable {settings : Settings} {functions : FunctionNames}

namespace Filter

theorem params_slots (params : List Param) : (slots params).params = params := by
  rw [slots, Fragment.params_separated, List.flatMap_map]
  exact List.flatMap_singleton' params

theorem params_condition {column value : String} {operator : Operator}
    {fragment : Fragment}
    (h : condition functions column operator value = .ok fragment) :
    fragment.params = values functions operator value := by
  simp only [condition] at h
  simp only [values]
  cases hembeds : functions.embeds value with
  | error cause =>
      rw [hembeds] at h
      cases h
  | ok embedded =>
      rw [hembeds] at h
      cases operator with
      | comparison kind =>
          cases h
          cases embedded <;> cases hempty : value.isEmpty <;>
            simp [comparison, hempty]
      | pattern shape =>
          cases h
          cases embedded <;> simp [pattern]
      | membership negated =>
          cases h
          cases embedded <;> simp [membership, params_slots]
      | nullness negated =>
          dsimp only at h
          split at h
          · cases h
            cases embedded <;> rfl
          · cases h

end Filter

namespace Conditions

def values (conditions : Conditions) : List Param :=
  conditions.nodes.flatMap nodeParams

theorem values_push (conditions : Conditions) (node : Node) :
    (conditions.push node).values = conditions.values ++ nodeParams node := by
  simp [values, push]

end Conditions

namespace FilterCall

theorem values_addFilter {table : Option Ident} {conditions after : Conditions}
    {connector : Connector} {column value : String} {operator : Operator}
    (h : addFilter settings table conditions connector column operator value =
      .ok after) :
    after.values =
      conditions.values ++ Filter.values settings.functions operator value := by
  rcases bind_eq_ok_iff.mp h with ⟨parsed, _, hrest⟩
  rcases bind_eq_ok_iff.mp hrest with ⟨fragment, hfragment, hafter⟩
  cases hafter
  rw [Conditions.add, Conditions.values_push,
    ← Filter.params_condition hfragment]
  rfl

theorem values_apply {table : Option Ident} {conditions after : Conditions}
    {call : FilterCall} (h : call.apply settings table conditions = .ok after) :
    after.values = conditions.values ++ call.values settings.functions := by
  cases call with
  | filter connector column operator value =>
      rcases bind_eq_ok_iff.mp h with ⟨parsed, hparsed, hadd⟩
      simp only [values, hparsed]
      exact values_addFilter hadd
  | filterBy column operator value => exact values_addFilter h
  | openGroup connector =>
      cases h
      exact conditions.values_push _
  | closeGroup =>
      simp only [apply, Conditions.closeGroup] at h
      split at h
      · cases h
      · split at h
        · cases h
        · cases h
          exact conditions.values_push _

end FilterCall

/-!
## Assignments
-/

def Assignment.values (assignments : List Assignment) : List Param :=
  assignments.flatMap fun assignment => assignment.value.piece.params

namespace AssignCall

theorem values_assign {assignments after : List Assignment} {column : String}
    {value : AssignedValue} (h : assign assignments column value = .ok after) :
    Assignment.values after =
      Assignment.values assignments ++ value.piece.params := by
  rcases map_eq_ok_iff.mp h with ⟨ident, _, rfl⟩
  simp [Assignment.values]

theorem values_apply {assignments after : List Assignment} {call : AssignCall}
    (h : call.apply settings assignments = .ok after) :
    Assignment.values after = Assignment.values assignments ++ call.values := by
  cases call with
  | set column value => exact values_assign h
  | setOptional column value =>
      cases value with
      | none =>
          cases h
          simp [values]
      | some value => exact values_assign h
  | setFunction column call =>
      rw [apply] at h
      split at h
      · cases h
      · cases h
      · exact values_assign h

end AssignCall

/-!
## Builders
-/

namespace Recording

theorem adds_nothing {σ : Type} {held : σ → List Param} {edit : Edit σ}
    (h : ∀ parts after, edit parts = .ok after → held after = held parts) :
    Adds held [edit] [] := by
  apply adds_single
  intro parts after hedit
  rw [h parts after hedit, List.append_nil]

theorem adds_nothing_map {σ κ : Type} {held : σ → List Param}
    {edit : κ → Edit σ}
    (h : ∀ call parts after, edit call parts = .ok after →
      held after = held parts)
    (calls : List κ) : Adds held (calls.map edit) [] := by
  induction calls with
  | nil => exact adds_nil
  | cons call rest ih => exact (adds_nothing (h call)).append ih

end Recording

namespace Selection

def values (selection : Selection) : List Param :=
  selection.conditions.values

theorem values_setTable {name : String} {selection after : Selection}
    (h : setTable name selection = .ok after) :
    after.values = selection.values := by
  rw [setTable] at h
  split at h
  · cases h
  · rcases map_eq_ok_iff.mp h with ⟨table, _, rfl⟩
    rfl

theorem values_project {raw : String} {selection after : Selection}
    (h : project settings raw selection = .ok after) :
    after.values = selection.values := by
  rcases project_eq_ok h with ⟨column, _, _, rfl⟩
  rfl

theorem values_addJoin {kind : JoinKind} {table left right : String}
    {selection after : Selection}
    (h : addJoin settings kind table left right selection = .ok after) :
    after.values = selection.values := by
  rcases map_eq_ok_iff.mp h with ⟨join, _, rfl⟩
  rfl

theorem values_addGroup {raw : String} {selection after : Selection}
    (h : addGroup settings raw selection = .ok after) :
    after.values = selection.values := by
  rcases map_eq_ok_iff.mp h with ⟨column, _, rfl⟩
  rfl

theorem values_addOrder {raw : String} {selection after : Selection}
    (h : addOrder settings raw selection = .ok after) :
    after.values = selection.values := by
  rcases map_eq_ok_iff.mp h with ⟨key, _, rfl⟩
  rfl

end Selection

theorem SelectCall.adds (call : SelectCall) :
    Recording.Adds Selection.values (call.edits settings)
      (call.values settings.functions) := by
  cases call with
  | setTable name =>
      exact Recording.adds_nothing fun _ _ => Selection.values_setTable
  | distinct =>
      apply Recording.adds_nothing
      intro selection after h
      cases h
      rfl
  | select columns =>
      exact Recording.adds_nothing_map (fun _ _ _ => Selection.values_project)
        columns
  | join kind table left right =>
      apply Recording.adds_nothing
      intro selection after h
      rcases bind_eq_ok_iff.mp h with ⟨kind, _, hjoin⟩
      exact Selection.values_addJoin hjoin
  | joinAs kind table left right =>
      exact Recording.adds_nothing fun _ _ => Selection.values_addJoin
  | filter call =>
      apply Recording.adds_single
      intro selection after h
      rcases map_eq_ok_iff.mp h with ⟨conditions, hconditions, rfl⟩
      exact FilterCall.values_apply hconditions
  | groupBy columns =>
      exact Recording.adds_nothing_map (fun _ _ _ => Selection.values_addGroup)
        columns
  | orderBy entries =>
      exact Recording.adds_nothing_map (fun _ _ _ => Selection.values_addOrder)
        entries
  | limit count =>
      apply Recording.adds_nothing
      intro selection after h
      cases h
      rfl
  | offset count =>
      apply Recording.adds_nothing
      intro selection after h
      cases h
      rfl
  | page number size =>
      apply Recording.adds_nothing
      intro selection after h
      cases h
      rfl

theorem Insertion.adds (calls : List AssignCall) :
    Recording.Adds (fun insertion : Insertion =>
        Assignment.values insertion.assignments)
      (calls.map (Insertion.assign settings))
      (calls.flatMap AssignCall.values) := by
  apply Recording.adds_map
  intro call insertion after h
  rcases map_eq_ok_iff.mp h with ⟨assignments, hassignments, rfl⟩
  exact AssignCall.values_apply hassignments

theorem UpdateCall.adds_assigned (calls : List UpdateCall) :
    Recording.Adds (fun update : Update => Assignment.values update.assignments)
      (calls.map (UpdateCall.edit settings))
      (calls.flatMap UpdateCall.assignedValues) := by
  apply Recording.adds_map
  intro call update after h
  cases call with
  | assign call =>
      rcases map_eq_ok_iff.mp h with ⟨assignments, hassignments, rfl⟩
      exact AssignCall.values_apply hassignments
  | filter call =>
      rcases map_eq_ok_iff.mp h with ⟨conditions, _, rfl⟩
      exact (List.append_nil _).symm

theorem UpdateCall.adds_compared (calls : List UpdateCall) :
    Recording.Adds (fun update : Update => update.conditions.values)
      (calls.map (UpdateCall.edit settings))
      (calls.flatMap (UpdateCall.comparedValues settings.functions)) := by
  apply Recording.adds_map
  intro call update after h
  cases call with
  | assign call =>
      rcases map_eq_ok_iff.mp h with ⟨assignments, _, rfl⟩
      exact (List.append_nil _).symm
  | filter call =>
      rcases map_eq_ok_iff.mp h with ⟨conditions, hconditions, rfl⟩
      exact FilterCall.values_apply hconditions

theorem DeleteCall.adds (calls : List DeleteCall) :
    Recording.Adds (fun deletion : Deletion => deletion.conditions.values)
      (calls.map (DeleteCall.edit settings))
      (calls.flatMap (DeleteCall.values settings.functions)) := by
  apply Recording.adds_map
  intro call deletion after h
  cases call with
  | allowAllRows allow =>
      cases h
      exact (List.append_nil _).symm
  | filter call =>
      rcases map_eq_ok_iff.mp h with ⟨conditions, hconditions, rfl⟩
      exact FilterCall.values_apply hconditions

/-!
## Statements
-/

theorem Selection.params_source {selection : Selection} {fragment : Fragment}
    (h : selection.source = .ok fragment) :
    fragment.params = selection.values := by
  rcases source_eq_ok_iff.mp h with ⟨table, conditions, _, hrender, rfl⟩
  have hjoins : Fragment.params
      (selection.joins.map fun join => Piece.text join.sql) = [] := by
    simp [Fragment.params, List.flatMap_map]
  simp [hjoins, Conditions.params_render hrender, values, Conditions.values]

theorem Selection.params_rows {selection : Selection} {fragment : Fragment}
    (h : selection.rows = .ok fragment) :
    fragment.params = selection.values := by
  rcases map_eq_ok_iff.mp h with ⟨source, hsource, rfl⟩
  simp [params_source hsource]

theorem Selection.params_aggregated {selection : Selection}
    {aggregate : Aggregate} {column : Column} {fragment : Fragment}
    (h : selection.aggregated aggregate column = .ok fragment) :
    fragment.params = selection.values := by
  rw [aggregated] at h
  split at h
  · cases h
  · rcases map_eq_ok_iff.mp h with ⟨source, hsource, rfl⟩
    simp [params_source hsource]

theorem Insertion.params_fragment {insertion : Insertion} {fragment : Fragment}
    (h : insertion.fragment = .ok fragment) :
    fragment.params = Assignment.values insertion.assignments := by
  rcases fragment_eq_ok_iff.mp h with ⟨table, _, _, rfl⟩
  simp [List.flatMap_map, Assignment.values]

theorem Update.params_fragment {update : Update} {fragment : Fragment}
    (h : update.fragment = .ok fragment) :
    fragment.params =
      Assignment.values update.assignments ++ update.conditions.values := by
  rcases fragment_eq_ok_iff.mp h with ⟨table, conditions, _, _, hrender, rfl⟩
  simp [List.flatMap_map, Assignment.values, Update.assignmentFragment,
    Conditions.params_render hrender, Conditions.values]

theorem Deletion.params_fragment {deletion : Deletion} {fragment : Fragment}
    (h : deletion.fragment = .ok fragment) :
    fragment.params = deletion.conditions.values := by
  rcases fragment_eq_ok_iff.mp h with ⟨table, restriction, _, hrestriction, rfl⟩
  rcases restriction_eq_ok_iff.mp hrestriction with
    ⟨hempty, rfl⟩ | ⟨_, hrender⟩
  · have hnodes := List.isEmpty_iff.mp hempty
    split <;> simp [Deletion.noRows, Conditions.values, hnodes]
  · simp [Conditions.params_render hrender, Conditions.values]

theorem Recording.Adds.of_checked {σ : Type} {held : σ → List Param}
    {edits : List (Edit σ)} {values : List Param} (h : Adds held edits values)
    {start : Recording σ} {parts : σ} (hstart : held start.parts = [])
    (hchecked : (start.attemptAll edits).checked = .ok parts) :
    held parts = values := by
  rcases checked_eq_ok_iff.mp hchecked with ⟨hnone, rfl⟩
  rw [h start hnone, hstart, List.nil_append]

theorem SelectBuilder.values_of_checked {table : String}
    {calls : List SelectCall} {selection : Selection}
    (h : ((start settings table).recordAll calls).recording.checked =
      .ok selection) :
    selection.values =
      calls.flatMap (SelectCall.values settings.functions) := by
  rcases parts_start settings table with ⟨owner, hstart⟩
  rw [recordAll_eq] at h
  exact (Recording.adds_flatMap SelectCall.adds calls).of_checked
    (by rw [hstart]; rfl) h

namespace Script

/-- A script binds the values of its calls and no others. -/
theorem params_fragment {script : Script} {fragment : Fragment}
    (h : script.fragment = .ok fragment) : fragment.params = script.values := by
  cases script with
  | select settings table calls =>
      rcases bind_eq_ok_iff.mp h with ⟨selection, hchecked, hrows⟩
      rw [Selection.params_rows hrows]
      exact SelectBuilder.values_of_checked hchecked
  | aggregate settings table calls function column =>
      rcases bind_eq_ok_iff.mp h with ⟨selection, hchecked, hrest⟩
      rcases bind_eq_ok_iff.mp hrest with ⟨aggregate, _, hrest⟩
      rcases bind_eq_ok_iff.mp hrest with ⟨target, _, haggregated⟩
      rw [Selection.params_aggregated haggregated]
      exact SelectBuilder.values_of_checked hchecked
  | insert settings table calls =>
      rcases bind_eq_ok_iff.mp h with ⟨insertion, hchecked, hwritten⟩
      rcases InsertBuilder.parts_start settings table with ⟨owner, hstart⟩
      rw [InsertBuilder.recordAll_eq] at hchecked
      rw [Insertion.params_fragment hwritten]
      exact (Insertion.adds calls).of_checked (by rw [hstart]; rfl) hchecked
  | update settings table calls =>
      rcases bind_eq_ok_iff.mp h with ⟨update, hchecked, hwritten⟩
      rcases UpdateBuilder.parts_start settings table with ⟨owner, hstart⟩
      rw [UpdateBuilder.recordAll_eq] at hchecked
      have hassigned := (UpdateCall.adds_assigned calls).of_checked
        (by rw [hstart]; rfl) hchecked
      have hcompared := (UpdateCall.adds_compared calls).of_checked
        (by rw [hstart]; rfl) hchecked
      rw [Update.params_fragment hwritten, hassigned, hcompared]
      rfl
  | delete settings table calls =>
      rcases bind_eq_ok_iff.mp h with ⟨deletion, hchecked, hwritten⟩
      rcases DeleteBuilder.parts_start settings table with ⟨owner, hstart⟩
      rw [DeleteBuilder.recordAll_eq] at hchecked
      rw [Deletion.params_fragment hwritten]
      exact (DeleteCall.adds calls).of_checked (by rw [hstart]; rfl) hchecked

end Script
end SqlAssembler
