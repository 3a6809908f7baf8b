import Mathlib
import SqlAssembler.Proofs.Influence.Calls

/-!
# Values without influence

Two scripts that differ only in values which are bound write the same text and
bind equally many values, or fail with the same error. Nothing of such a value
can be read off the text.
-/

namespace SqlAssembler

inductive Script.Varies : Script → Script → Prop where
  | select (settings : Settings) (table : String) {calls others}
      (h : List.Forall₂ (SelectCall.Varies settings.functions) calls others) :
      Varies (.select settings table calls) (.select settings table others)
  | aggregate (settings : Settings) (table : String) {calls others}
      (function column : String)
      (h : List.Forall₂ (SelectCall.Varies settings.functions) calls others) :
      Varies (.aggregate settings table calls function column)
        (.aggregate settings table others function column)
  | insert (settings : Settings) (table : String) {calls others}
      (h : List.Forall₂ AssignCall.Varies calls others) :
      Varies (.insert settings table calls) (.insert settings table others)
  | update (settings : Settings) (table : String) {calls others}
      (h : List.Forall₂ (UpdateCall.Varies settings.functions) calls others) :
      Varies (.update settings table calls) (.update settings table others)
  | delete (settings : Settings) (table : String) {calls others}
      (h : List.Forall₂ (DeleteCall.Varies settings.functions) calls others) :
      Varies (.delete settings table calls) (.delete settings table others)

/-!
## Edits
-/

variable {settings : Settings}

namespace Selection

theorem corresponds_addFilter {call other : FilterCall}
    (h : call.Varies settings.functions other) :
    Recording.Corresponds Alike (addFilter settings call)
      (addFilter settings other) := by
  rintro selection _ ⟨conditions, hconditions, rfl⟩
  apply (FilterCall.alike_apply h hconditions selection.table).map
  intro recorded recorded' hrecorded
  exact ⟨recorded', hrecorded, rfl⟩

theorem corresponds_setTable (name : String) :
    Recording.Corresponds Alike (setTable name) (setTable name) := by
  rintro selection _ ⟨conditions, hconditions, rfl⟩
  have huses : usesTable { selection with conditions } =
      selection.usesTable := by
    simp [usesTable, hconditions.isEmpty_eq]
  unfold setTable
  rw [huses]
  dsimp only
  split
  · exact .error _
  · apply Agree.map_same
    intro table
    exact ⟨conditions, hconditions, rfl⟩

theorem corresponds_project (raw : String) :
    Recording.Corresponds Alike (project settings raw)
      (project settings raw) := by
  rintro selection _ ⟨conditions, hconditions, rfl⟩
  apply Agree.bind_same
  intro column _
  have hadded : Alike
      { selection with columns := selection.columns ++ [column] }
      { selection with
        columns := selection.columns ++ [column]
        conditions } :=
    ⟨conditions, hconditions, rfl⟩
  cases column.resultKey with
  | none => exact .ok hadded
  | some key =>
      dsimp only
      change Agree Alike (if selection.hasResultKey key then _ else _)
        (if selection.hasResultKey key then _ else _)
      split
      · exact .error _
      · exact .ok hadded

theorem corresponds_addJoin (kind : JoinKind) (table left right : String) :
    Recording.Corresponds Alike (addJoin settings kind table left right)
      (addJoin settings kind table left right) := by
  rintro selection _ ⟨conditions, hconditions, rfl⟩
  apply Agree.map_same
  intro join
  exact ⟨conditions, hconditions, rfl⟩

end Selection

/-- No call tells alike selections apart. -/
theorem SelectCall.corresponds_same (call : SelectCall) :
    ∀ edit ∈ call.edits settings,
      Recording.Corresponds Selection.Alike edit edit := by
  intro edit hmem
  cases call with
  | setTable name =>
      cases List.mem_singleton.mp hmem
      exact Selection.corresponds_setTable name
  | select columns =>
      rcases List.mem_map.mp hmem with ⟨raw, _, rfl⟩
      exact Selection.corresponds_project raw
  | join kind table left right =>
      cases List.mem_singleton.mp hmem
      intro selection other h
      apply Agree.bind_same
      intro parsed _
      exact Selection.corresponds_addJoin parsed table left right _ _ h
  | joinAs kind table left right =>
      cases List.mem_singleton.mp hmem
      exact Selection.corresponds_addJoin kind table left right
  | filter call =>
      cases List.mem_singleton.mp hmem
      exact Selection.corresponds_addFilter (.same call)
  | groupBy columns =>
      rcases List.mem_map.mp hmem with ⟨raw, _, rfl⟩
      rintro selection _ ⟨conditions, hconditions, rfl⟩
      apply Agree.map_same
      intro column
      exact ⟨conditions, hconditions, rfl⟩
  | orderBy entries =>
      rcases List.mem_map.mp hmem with ⟨raw, _, rfl⟩
      rintro selection _ ⟨conditions, hconditions, rfl⟩
      apply Agree.map_same
      intro key
      exact ⟨conditions, hconditions, rfl⟩
  | _ =>
      cases List.mem_singleton.mp hmem
      rintro selection _ ⟨conditions, hconditions, rfl⟩
      exact .ok ⟨conditions, hconditions, rfl⟩

theorem SelectCall.Varies.edits {call other : SelectCall}
    (h : call.Varies settings.functions other) :
    List.Forall₂ (Recording.Corresponds Selection.Alike) (call.edits settings)
      (other.edits settings) := by
  cases h with
  | same => exact List.forall₂_same.mpr call.corresponds_same
  | filter hcall => exact .cons (Selection.corresponds_addFilter hcall) .nil

theorem AssignCall.Varies.edit {call other : AssignCall}
    (h : call.Varies other) :
    Recording.Corresponds Insertion.Alike (Insertion.assign settings call)
      (Insertion.assign settings other) := by
  intro insertion insertion' halike
  apply (AssignCall.alike_apply h halike.assignments).map
  intro assignments assignments' hassignments
  exact ⟨halike.table, hassignments⟩

theorem UpdateCall.Varies.edit {call other : UpdateCall}
    (h : call.Varies settings.functions other) :
    Recording.Corresponds Update.Alike (call.edit settings)
      (other.edit settings) := by
  intro update update' halike
  cases h with
  | assign hcall =>
      apply (AssignCall.alike_apply hcall halike.assignments).map
      intro assignments assignments' hassignments
      exact ⟨halike.table, hassignments, halike.conditions⟩
  | @filter call other hcall =>
      have happly : Agree Conditions.Alike
          (call.apply settings update.table update.conditions)
          (other.apply settings update'.table update'.conditions) := by
        rw [halike.table]
        exact FilterCall.alike_apply hcall halike.conditions _
      apply happly.map
      intro conditions conditions' hconditions
      exact ⟨halike.table, halike.assignments, hconditions⟩

theorem DeleteCall.Varies.edit {call other : DeleteCall}
    (h : call.Varies settings.functions other) :
    Recording.Corresponds Deletion.Alike (call.edit settings)
      (other.edit settings) := by
  intro deletion deletion' halike
  cases h with
  | allowAllRows allow => exact .ok ⟨halike.table, halike.conditions, rfl⟩
  | @filter call other hcall =>
      have happly : Agree Conditions.Alike
          (call.apply settings deletion.table deletion.conditions)
          (other.apply settings deletion'.table deletion'.conditions) := by
        rw [halike.table]
        exact FilterCall.alike_apply hcall halike.conditions _
      apply happly.map
      intro conditions conditions' hconditions
      exact ⟨halike.table, hconditions, halike.allRows⟩

/-!
## Scripts
-/

theorem SelectBuilder.checked_alike (table : String)
    {calls others : List SelectCall}
    (h : List.Forall₂ (SelectCall.Varies settings.functions) calls others) :
    Agree Selection.Alike
      ((start settings table).recordAll calls).recording.checked
      ((start settings table).recordAll others).recording.checked := by
  rw [recordAll_eq, recordAll_eq]
  apply Recording.agree_checked
  · rcases parts_start settings table with ⟨owner, hparts⟩
    rw [hparts]
    exact ⟨_, Conditions.alike_empty, rfl⟩
  · exact List.rel_flatMap h fun _ _ hcall => hcall.edits

theorem InsertBuilder.checked_alike (settings : Settings) (table : String)
    {calls others : List AssignCall}
    (h : List.Forall₂ AssignCall.Varies calls others) :
    Agree Insertion.Alike
      ((start settings table).recordAll calls).recording.checked
      ((start settings table).recordAll others).recording.checked := by
  rw [recordAll_eq, recordAll_eq]
  apply Recording.agree_checked
  · rcases parts_start settings table with ⟨owner, hparts⟩
    rw [hparts]
    exact ⟨rfl, .nil⟩
  · exact List.rel_map (fun _ _ hcall => hcall.edit) h

theorem UpdateBuilder.checked_alike (table : String)
    {calls others : List UpdateCall}
    (h : List.Forall₂ (UpdateCall.Varies settings.functions) calls others) :
    Agree Update.Alike
      ((start settings table).recordAll calls).recording.checked
      ((start settings table).recordAll others).recording.checked := by
  rw [recordAll_eq, recordAll_eq]
  apply Recording.agree_checked
  · rcases parts_start settings table with ⟨owner, hparts⟩
    rw [hparts]
    exact ⟨rfl, .nil, Conditions.alike_empty⟩
  · exact List.rel_map (fun _ _ hcall => hcall.edit) h

theorem DeleteBuilder.checked_alike (table : String)
    {calls others : List DeleteCall}
    (h : List.Forall₂ (DeleteCall.Varies settings.functions) calls others) :
    Agree Deletion.Alike
      ((start settings table).recordAll calls).recording.checked
      ((start settings table).recordAll others).recording.checked := by
  rw [recordAll_eq, recordAll_eq]
  apply Recording.agree_checked
  · rcases parts_start settings table with ⟨owner, hparts⟩
    rw [hparts]
    exact ⟨rfl, Conditions.alike_empty, rfl⟩
  · exact List.rel_map (fun _ _ hcall => hcall.edit) h

namespace Script

theorem Varies.fragment {script other : Script} (h : script.Varies other) :
    Agree Fragment.Alike script.fragment other.fragment := by
  cases h with
  | select settings table hcalls =>
      apply (SelectBuilder.checked_alike table hcalls).bind
      intro selection selection' halike
      exact halike.rows
  | aggregate settings table function column hcalls =>
      apply (SelectBuilder.checked_alike table hcalls).bind
      intro selection selection' halike
      apply Agree.bind_same
      intro aggregate _
      have htable : selection.table = selection'.table := by
        rcases halike with ⟨conditions, _, rfl⟩
        rfl
      rw [htable]
      apply Agree.bind_same
      intro target _
      exact halike.aggregated aggregate target
  | insert settings table hcalls =>
      apply (InsertBuilder.checked_alike settings table hcalls).bind
      intro insertion insertion' halike
      exact halike.fragment
  | update settings table hcalls =>
      apply (UpdateBuilder.checked_alike table hcalls).bind
      intro update update' halike
      exact halike.fragment
  | delete settings table hcalls =>
      apply (DeleteBuilder.checked_alike table hcalls).bind
      intro deletion deletion' halike
      exact halike.fragment

theorem statement_of_varies {script other : Script}
    (h : script.Varies other) :
    (∃ error, script.statement = .error error ∧
      other.statement = .error error) ∨
    ∃ statement otherStatement, script.statement = .ok statement ∧
      other.statement = .ok otherStatement ∧
      statement.sql = otherStatement.sql ∧
      statement.params.length = otherStatement.params.length := by
  have hfragment := h.fragment
  rw [statement_eq, statement_eq]
  generalize script.fragment = result at hfragment ⊢
  generalize other.fragment = result' at hfragment ⊢
  cases hfragment with
  | error error => exact .inl ⟨error, rfl, rfl⟩
  | ok halike =>
      right
      exact ⟨_, _, rfl, rfl, halike.sql_eq, halike.length_params⟩

/-- A value that would close a quote, and a list whose second element looks like
a call. -/
theorem statement_of_varies_of_quotes :
    ∃ statement otherStatement,
      Script.statement (.update ⟨⟨["NOW"]⟩, true⟩ "t"
          [.assign (.set "a" (.int 1)),
            .filter (.filterBy "b" (.comparison .eq) "x"),
            .filter (.filter .or "c" "in" "1,2")]) = .ok statement ∧
        Script.statement (.update ⟨⟨["NOW"]⟩, true⟩ "t"
          [.assign (.set "a" .null),
            .filter (.filterBy "b" (.comparison .eq) "' OR 1=1 --"),
            .filter (.filter .or "c" "in" "),NOW()")]) =
          .ok otherStatement ∧
        statement.sql = "UPDATE t SET a = ? WHERE t.b = ? OR t.c IN (?,?)" ∧
        statement.sql = otherStatement.sql ∧
        statement.params.length = otherStatement.params.length := by
  have hshape : ∀ operator, Operator.parse "in" = .ok operator →
      operator.SameShape "1,2" "),NOW()" := by
    rintro _ ⟨⟩
    rfl
  have hvaries : Varies
      (.update ⟨⟨["NOW"]⟩, true⟩ "t"
        [.assign (.set "a" (.int 1)),
          .filter (.filterBy "b" (.comparison .eq) "x"),
          .filter (.filter .or "c" "in" "1,2")])
      (.update ⟨⟨["NOW"]⟩, true⟩ "t"
        [.assign (.set "a" .null),
          .filter (.filterBy "b" (.comparison .eq) "' OR 1=1 --"),
          .filter (.filter .or "c" "in" "),NOW()")]) := by
    refine .update _ "t" (.cons (.assign (.set "a" _ _))
      (.cons (.filter (.filterBy "b" _ ?_ ?_ ?_))
        (.cons (.filter (.filter .or "c" "in" ?_ ?_ hshape)) .nil)))
    · simp [FunctionNames.StartsCall]
    · simp [FunctionNames.StartsCall]
    · exact ⟨by decide, by decide⟩
    · simp [FunctionNames.StartsCall]
    · simp [FunctionNames.StartsCall]
  generalize hscript : Script.update ⟨⟨["NOW"]⟩, true⟩ "t"
    [.assign (.set "a" (.int 1)),
      .filter (.filterBy "b" (.comparison .eq) "x"),
      .filter (.filter .or "c" "in" "1,2")] = script at hvaries ⊢
  have hstatement : script.statement =
      .ok ⟨"UPDATE t SET a = ? WHERE t.b = ? OR t.c IN (?,?)",
        [.int 1, .text "x", .text "1", .text "2"]⟩ := by
    rw [← hscript]
    cbv
  rcases statement_of_varies hvaries with ⟨error, herror, _⟩ |
    ⟨statement, otherStatement, hok, hother, hsql, hlength⟩
  · rw [hstatement] at herror
    cases herror
  · rw [hstatement] at hok
    cases hok
    exact ⟨_, otherStatement, hstatement, hother, rfl, hsql, hlength⟩

end Script
end SqlAssembler
