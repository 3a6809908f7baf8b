import Mathlib
import SqlAssembler.Proofs.Conditions.Recorded
import SqlAssembler.Proofs.Recordings
import SqlAssembler.Proofs.Scripts.Written
import SqlAssembler.Proofs.Tables.Changes

/-!
# Conditions of three statements

A selection, an update and a deletion take the same filter calls. They refuse
the same calls, for the same reason, and write the same conditions with the same
values: what is read by a predicate is what is updated or deleted by it.
-/

namespace SqlAssembler

open Recording

/-!
## Filter calls by themselves
-/

theorem Conditions.sql_render_eq_empty_iff {conditions : Conditions}
    {clause : Fragment} (h : conditions.render = .ok clause) :
    clause.sql = "" ↔ conditions.isEmpty = true := by
  rcases render_eq_ok_iff.mp h with ⟨_, rfl⟩
  cases conditions.isEmpty with
  | true => exact ⟨fun _ => rfl, fun _ => rfl⟩
  | false =>
      rw [if_neg Bool.false_ne_true, Fragment.sql_cons]
      simp [Piece.sql]

namespace FilterCall

variable {settings : Settings} {owner : Ident} {calls : List FilterCall}

def recordAll (settings : Settings) (owner : Ident) (calls : List FilterCall) :
    Recording Conditions :=
  (Recording.start .empty).attemptAll
    (calls.map fun call conditions =>
      call.apply settings (some owner) conditions)

/-- The conditions as they are written after a statement. -/
def whereClause (settings : Settings) (owner : Ident)
    (calls : List FilterCall) : Except Error Fragment := do
  (← (recordAll settings owner calls).checked).render

theorem isEmpty_recordAll
    (hnone : (recordAll settings owner calls).failure = none) :
    (recordAll settings owner calls).parts.isEmpty = calls.isEmpty := by
  have hstep : ∀ done conditions call after,
      Conditions.isEmpty conditions = List.isEmpty done →
        apply settings (some owner) conditions call = .ok after →
          after.isEmpty = (done ++ [call]).isEmpty := by
    intro done conditions call after _ happly
    rw [isEmpty_apply happly]
    simp
  have hempty : Conditions.empty.isEmpty = ([] : List FilterCall).isEmpty :=
    rfl
  exact attemptAll_tracks hstep hempty hnone

theorem sql_whereClause_eq_empty_iff {clause : Fragment}
    (h : whereClause settings owner calls = .ok clause) :
    clause.sql = "" ↔ calls = [] := by
  rcases bind_eq_ok_iff.mp h with ⟨conditions, hchecked, hrender⟩
  rcases checked_eq_ok_iff.mp hchecked with ⟨hnone, rfl⟩
  rw [Conditions.sql_render_eq_empty_iff hrender, isEmpty_recordAll hnone,
    List.isEmpty_iff]

/-!
Whatever a builder keeps beside its conditions, it records the calls in the same
way, and what it writes depends on them through the same clause.
-/

variable {σ : Type} (embed : Conditions → σ)

theorem attemptAll_embedded {edit : FilterCall → Edit σ}
    (h : ∀ call conditions, edit call (embed conditions) =
      (call.apply settings (some owner) conditions).map embed)
    (calls : List FilterCall) :
    (Recording.start (embed .empty)).attemptAll (calls.map edit) =
      (recordAll settings owner calls).map embed :=
  simulates_map h calls (Recording.start .empty)

theorem statement_embedded {write : σ → Except Error Fragment}
    {form : Fragment → Statement}
    (h : ∀ conditions, (write (embed conditions)).map Fragment.statement =
      conditions.render.map form)
    (calls : List FilterCall) :
    (do let parts ← ((recordAll settings owner calls).map embed).checked
        return (← write parts).statement) =
      (whereClause settings owner calls).map form := by
  rw [Script.bind_statement, checked_map, whereClause]
  cases (recordAll settings owner calls).checked with
  | error error => rfl
  | ok conditions => exact h conditions

end FilterCall

/-!
## Filter calls to a builder
-/

variable {settings : Settings} {table : String} {owner : Ident}

namespace Selection

def whole (owner : Ident) (clause : Fragment) : Statement :=
  ⟨"SELECT * FROM " ++ owner.sql ++ clause.sql, clause.params⟩

theorem rows_whole (owner : Ident) (conditions : Conditions) :
    ({ ofTable owner with conditions } : Selection).rows.map
        Fragment.statement =
      conditions.render.map (whole owner) := by
  rw [rows, source]
  dsimp only [ofTable]
  cases conditions.render with
  | error error => rfl
  | ok clause =>
      refine congrArg Except.ok ?_
      have hstart : ∀ rest : String,
          "SELECT *" ++ (" FROM " ++ rest) = "SELECT * FROM " ++ rest := by
        intro rest
        rw [← String.append_assoc]
        rfl
      simp [Fragment.statement, Fragment.sql, Piece.sql, whole, empty,
        columnsText, groupText, orderText, limitText, offsetText,
        String.append_assoc, hstart]

end Selection

theorem SelectBuilder.statement_filters (howner : Ident.parse table = .ok owner)
    (calls : List FilterCall) :
    ((start settings table).recordAll (calls.map .filter)).statement =
      (FilterCall.whereClause settings owner calls).map
        (Selection.whole owner) := by
  have hedits : (calls.map SelectCall.filter).flatMap
      (SelectCall.edits settings) =
        calls.map (Selection.addFilter settings) := by
    rw [List.flatMap_map, List.map_eq_flatMap]
    rfl
  have hrecording : (Recording.start (Selection.ofTable owner)).attemptAll
      (calls.map (Selection.addFilter settings)) =
        (FilterCall.recordAll settings owner calls).map fun conditions =>
          { Selection.ofTable owner with conditions } :=
    FilterCall.attemptAll_embedded
      (fun conditions => { Selection.ofTable owner with conditions })
      (fun _ _ => rfl) calls
  rw [recordAll_eq, start_of_parse howner, statement]
  dsimp only
  rw [hedits, hrecording]
  exact FilterCall.statement_embedded _ (Selection.rows_whole owner) calls

namespace Update

def assigned (assignments : List Assignment) : Fragment :=
  Fragment.separated ", " (assignments.map assignmentFragment)

def whole (owner : Ident) (assignments : List Assignment)
    (clause : Fragment) : Statement :=
  ⟨"UPDATE " ++ owner.sql ++ " SET " ++ (assigned assignments).sql ++
      clause.sql,
    (assigned assignments).params ++ clause.params⟩

theorem fragment_whole (owner : Ident) {assignments : List Assignment}
    (hne : assignments ≠ []) (conditions : Conditions) :
    (fragment ⟨some owner, assignments, conditions⟩).map Fragment.statement =
      conditions.render.map (whole owner assignments) := by
  have hfilled : assignments.isEmpty = false := by simpa using hne
  rw [fragment]
  simp only [hfilled, Bool.false_eq_true, if_false]
  cases conditions.render with
  | error error => rfl
  | ok clause =>
      refine congrArg Except.ok ?_
      simp only [Fragment.statement, List.cons_append, Fragment.sql_cons,
        Fragment.sql_append, Fragment.params_cons, Fragment.params_append,
        Piece.sql, Piece.params_text, List.nil_append, whole, assigned,
        String.append_assoc]

end Update

namespace UpdateBuilder

theorem start_of_parse (howner : Ident.parse table = .ok owner)
    (settings : Settings) :
    start settings table = ⟨settings, .start ⟨some owner, [], .empty⟩⟩ := by
  have htable : Update.setTable table ⟨none, [], .empty⟩ =
      .ok ⟨some owner, [], .empty⟩ := by
    simp only [Update.setTable, howner]
    rfl
  exact congrArg (Builder.mk settings) (attempt_of_ok htable)

theorem parts_assigned (howner : Ident.parse table = .ok owner)
    (settings : Settings) (sets : List AssignCall) :
    ∃ assignments,
      ((start settings table).recordAll (sets.map .assign)).recording.parts =
        ⟨some owner, assignments, .empty⟩ := by
  rw [start_of_parse howner, recordAll_eq, List.map_map]
  refine attemptAll_keeps (P := fun update : Update =>
    ∃ assignments, update = ⟨some owner, assignments, .empty⟩) ⟨[], rfl⟩ ?_
  intro edit hedit update after hbefore hafter
  rcases hbefore with ⟨assignments, rfl⟩
  rcases List.mem_map.mp hedit with ⟨call, _, rfl⟩
  rcases map_eq_ok_iff.mp hafter with ⟨others, _, rfl⟩
  exact ⟨others, rfl⟩

theorem statement_filters (howner : Ident.parse table = .ok owner)
    {sets : List AssignCall}
    (hnone : ((start settings table).recordAll
      (sets.map .assign)).recording.failure = none)
    (hne : ((start settings table).recordAll
      (sets.map .assign)).recording.parts.assignments ≠ [])
    (calls : List FilterCall) :
    ((start settings table).recordAll
        (sets.map .assign ++ calls.map .filter)).statement =
      (FilterCall.whereClause settings owner calls).map
        (Update.whole owner ((start settings table).recordAll
          (sets.map .assign)).recording.parts.assignments) := by
  rcases parts_assigned howner settings sets with ⟨assignments, hparts⟩
  have hassigned := eq_start_of_accepted hnone
  rw [hparts] at hne hassigned ⊢
  have hrecording :
      (Recording.start (Update.mk (some owner) assignments .empty)).attemptAll
        (calls.map (Update.addFilter settings)) =
          (FilterCall.recordAll settings owner calls).map fun conditions =>
            ⟨some owner, assignments, conditions⟩ :=
    FilterCall.attemptAll_embedded (Update.mk (some owner) assignments)
      (fun _ _ => rfl) calls
  have hboth : ((start settings table).recordAll
      (sets.map .assign ++ calls.map .filter)).recording =
        (FilterCall.recordAll settings owner calls).map fun conditions =>
          ⟨some owner, assignments, conditions⟩ := by
    rw [recordAll_eq] at hassigned
    rw [recordAll_eq, List.map_append, attemptAll_append]
    dsimp only at hassigned ⊢
    rw [hassigned, List.map_map]
    exact hrecording
  rw [statement, hboth]
  exact FilterCall.statement_embedded _ (Update.fragment_whole owner hne) calls

end UpdateBuilder

namespace Deletion

def whole (owner : Ident) (clause : Fragment) : Statement :=
  if clause.sql = "" then ⟨"DELETE FROM " ++ owner.sql ++ " WHERE 1=0", []⟩
  else ⟨"DELETE FROM " ++ owner.sql ++ clause.sql, clause.params⟩

theorem fragment_whole (owner : Ident) (conditions : Conditions) :
    (fragment ⟨some owner, conditions, false⟩).map Fragment.statement =
      conditions.render.map (whole owner) := by
  cases hempty : conditions.isEmpty with
  | true =>
      have hnone : conditions = .empty :=
        Conditions.eq_of_nodes (List.isEmpty_iff.mp hempty)
      rw [hnone]
      refine congrArg Except.ok ?_
      have hnothing : Fragment.sql [] = "" := rfl
      rw [whole, if_pos hnothing]
      simp [Fragment.statement, Fragment.sql, Piece.sql, noRows]
  | false =>
      rw [fragment, restriction]
      simp only [hempty, Bool.false_eq_true, if_false]
      cases hrender : conditions.render with
      | error error => rfl
      | ok clause =>
          have hfilled : clause.sql ≠ "" := by
            rw [ne_eq, Conditions.sql_render_eq_empty_iff hrender, hempty]
            exact Bool.false_ne_true
          refine congrArg Except.ok ?_
          rw [whole, if_neg hfilled]
          simp [Fragment.statement, Fragment.sql_cons, Piece.sql]

end Deletion

namespace DeleteBuilder

theorem start_of_parse (howner : Ident.parse table = .ok owner)
    (settings : Settings) :
    start settings table = ⟨settings, .start ⟨some owner, .empty, false⟩⟩ := by
  have htable : Deletion.setTable table ⟨none, .empty, false⟩ =
      .ok ⟨some owner, .empty, false⟩ := by
    simp only [Deletion.setTable, howner]
    rfl
  exact congrArg (Builder.mk settings) (attempt_of_ok htable)

theorem statement_filters (howner : Ident.parse table = .ok owner)
    (calls : List FilterCall) :
    ((start settings table).recordAll (calls.map .filter)).statement =
      (FilterCall.whereClause settings owner calls).map
        (Deletion.whole owner) := by
  have hrecording :
      (Recording.start (Deletion.mk (some owner) .empty false)).attemptAll
        (calls.map (Deletion.addFilter settings)) =
          (FilterCall.recordAll settings owner calls).map fun conditions =>
            ⟨some owner, conditions, false⟩ :=
    FilterCall.attemptAll_embedded
      (fun conditions => Deletion.mk (some owner) conditions false)
      (fun _ _ => rfl) calls
  have hcalls : (calls.map DeleteCall.filter).map (DeleteCall.edit settings) =
      calls.map (Deletion.addFilter settings) := by
    rw [List.map_map]
    rfl
  rw [recordAll_eq, start_of_parse howner, statement]
  dsimp only
  rw [hcalls, hrecording]
  exact FilterCall.statement_embedded _ (Deletion.fragment_whole owner) calls

end DeleteBuilder

/-!
## Agreement
-/

/-- The same filter calls to a selection, to an update that sets something and
to a deletion are all refused for one reason, or lead to one clause, which all
three statements end with. It is empty only if there are no calls, and then the
deletion removes nothing. -/
theorem filters_agree (settings : Settings) {table : String} {owner : Ident}
    (howner : Ident.parse table = .ok owner) {sets : List AssignCall}
    (hnone : ((UpdateBuilder.start settings table).recordAll
      (sets.map .assign)).recording.failure = none)
    (hne : ((UpdateBuilder.start settings table).recordAll
      (sets.map .assign)).recording.parts.assignments ≠ [])
    (calls : List FilterCall) :
    (∃ error,
      ((SelectBuilder.start settings table).recordAll
        (calls.map .filter)).statement = .error error ∧
      ((UpdateBuilder.start settings table).recordAll
        (sets.map .assign ++ calls.map .filter)).statement = .error error ∧
      ((DeleteBuilder.start settings table).recordAll
        (calls.map .filter)).statement = .error error) ∨
    ∃ clause : Fragment, (clause.sql = "" ↔ calls = []) ∧
      ((SelectBuilder.start settings table).recordAll
        (calls.map .filter)).statement =
        .ok ⟨"SELECT * FROM " ++ owner.sql ++ clause.sql, clause.params⟩ ∧
      ((UpdateBuilder.start settings table).recordAll
        (sets.map .assign ++ calls.map .filter)).statement =
        .ok (Update.whole owner ((UpdateBuilder.start settings table).recordAll
          (sets.map .assign)).recording.parts.assignments clause) ∧
      ((DeleteBuilder.start settings table).recordAll
        (calls.map .filter)).statement =
        .ok (if clause.sql = ""
          then ⟨"DELETE FROM " ++ owner.sql ++ " WHERE 1=0", []⟩
          else ⟨"DELETE FROM " ++ owner.sql ++ clause.sql, clause.params⟩) := by
  rw [SelectBuilder.statement_filters howner,
    UpdateBuilder.statement_filters howner hnone hne,
    DeleteBuilder.statement_filters howner]
  cases hclause : FilterCall.whereClause settings owner calls with
  | error error => exact .inl ⟨error, rfl, rfl, rfl⟩
  | ok clause =>
      have hempty := FilterCall.sql_whereClause_eq_empty_iff hclause
      exact .inr ⟨clause, hempty, rfl, rfl, rfl⟩

/-- A group decides which rows are read, updated and deleted. -/
theorem filters_agree_of_group :
    ∃ clause : Fragment, clause.sql ≠ "" ∧
      ((SelectBuilder.start .standard "t").recordAll
        ([.openGroup .and, .filter .or "b" "eq" "x", .closeGroup].map
          .filter)).statement =
        .ok ⟨"SELECT * FROM t" ++ clause.sql, clause.params⟩ ∧
      ((UpdateBuilder.start .standard "t").recordAll
        ([.set "a" (.int 1)].map .assign ++
          [.openGroup .and, .filter .or "b" "eq" "x", .closeGroup].map
            .filter)).statement =
        .ok ⟨"UPDATE t SET a = ?" ++ clause.sql, .int 1 :: clause.params⟩ ∧
      ((DeleteBuilder.start .standard "t").recordAll
        ([.openGroup .and, .filter .or "b" "eq" "x", .closeGroup].map
          .filter)).statement =
        .ok ⟨"DELETE FROM t" ++ clause.sql, clause.params⟩ := by
  have howner : Ident.parse "t" = .ok ⟨[⟨"t", false⟩]⟩ := by cbv
  have hnone : ((UpdateBuilder.start .standard "t").recordAll
      ([.set "a" (.int 1)].map .assign)).recording.failure = none := by
    cbv
  have hassigned : ((UpdateBuilder.start .standard "t").recordAll
      ([.set "a" (.int 1)].map .assign)).recording.parts.assignments =
        [⟨⟨[⟨"a", false⟩]⟩, .bound (.int 1)⟩] := by
    cbv
  have hne : ((UpdateBuilder.start .standard "t").recordAll
      ([.set "a" (.int 1)].map .assign)).recording.parts.assignments ≠ [] := by
    rw [hassigned]
    exact List.cons_ne_nil _ _
  rcases filters_agree .standard howner hnone hne
      [.openGroup .and, .filter .or "b" "eq" "x", .closeGroup] with
    ⟨error, hselect, _⟩ | ⟨clause, hempty, hselect, hupdate, hdelete⟩
  · have hfailure : ((SelectBuilder.start .standard "t").recordAll
        ([.openGroup .and, .filter .or "b" "eq" "x", .closeGroup].map
          .filter)).statement =
          .ok ⟨"SELECT * FROM t WHERE (t.b = ?)", [.text "x"]⟩ := by
      cbv
    rw [hfailure] at hselect
    cases hselect
  · have hfilled : clause.sql ≠ "" := by
      rw [ne_eq, hempty]
      exact List.cons_ne_nil _ _
    rw [hassigned] at hupdate
    rw [if_neg hfilled] at hdelete
    exact ⟨clause, hfilled, hselect, hupdate, hdelete⟩

end SqlAssembler
