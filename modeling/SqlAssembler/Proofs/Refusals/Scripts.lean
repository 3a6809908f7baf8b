import Mathlib
import SqlAssembler.Execution.Running
import SqlAssembler.Proofs.Refusals.Edits
import SqlAssembler.Proofs.Scripts.Basic

/-!
# Refused calls

The first call that is refused decides what a builder answers from then on,
whatever is recorded after it. All refused calls could as well be left out: what
is recorded is what the other calls record by themselves. A call that takes
several entries is judged entry by entry.
-/

namespace SqlAssembler

/-!
## Calls that are accepted
-/

namespace SelectCall

def accepted? (settings : Settings) (selection : Selection) :
    SelectCall → Option SelectCall
  | select columns =>
      some (select
        (Recording.accepted (Selection.project settings) selection columns))
  | groupBy columns =>
      some (groupBy
        (Recording.accepted (Selection.addGroup settings) selection columns))
  | orderBy entries =>
      some (orderBy
        (Recording.accepted (Selection.addOrder settings) selection entries))
  | call =>
      if (Recording.refusals selection (call.edits settings)).isEmpty then
        some call
      else none

def acceptedAll (settings : Settings) (selection : Selection) :
    List SelectCall → List SelectCall
  | [] => []
  | call :: rest =>
      let recorded := (Recording.start selection).attemptAll
        (call.edits settings)
      (call.accepted? settings selection).toList ++
        acceptedAll settings recorded.parts rest

theorem attemptAll_whole {settings : Settings} {call : SelectCall}
    {edit : Edit Selection} (hedits : call.edits settings = [edit])
    (recording : Recording Selection) :
    recording.attemptAll
        ((if (Recording.refusals recording.parts
            (call.edits settings)).isEmpty then some call
          else none).toList.flatMap (edits settings)) =
      ⟨(recording.attemptAll (call.edits settings)).parts,
        recording.failure⟩ := by
  cases hedit : edit recording.parts with
  | ok after =>
      have hattempt : recording.attemptAll (call.edits settings) =
          ⟨after, recording.failure⟩ := by
        rw [hedits]
        exact Recording.attempt_of_ok hedit
      have hnone : Recording.refusals recording.parts
          (call.edits settings) = [] := by
        simp [hedits, Recording.refusals, hedit]
      rw [hattempt, hnone]
      simpa using hattempt
  | error error =>
      have hattempt : recording.attemptAll (call.edits settings) =
          ⟨recording.parts, recording.failure.or (some error)⟩ := by
        rw [hedits]
        exact Recording.attempt_of_error hedit
      have hone : Recording.refusals recording.parts
          (call.edits settings) = [error] := by
        simp [hedits, Recording.refusals, hedit]
      rw [hattempt, hone]
      rfl

theorem attemptAll_accepted? (settings : Settings)
    (recording : Recording Selection) (call : SelectCall) :
    recording.attemptAll
        ((call.accepted? settings recording.parts).toList.flatMap
          (edits settings)) =
      ⟨(recording.attemptAll (call.edits settings)).parts,
        recording.failure⟩ := by
  cases call with
  | select columns =>
      simp only [accepted?, Option.toList_some, List.flatMap_singleton]
      exact Recording.attemptAll_accepted _ recording columns
  | groupBy columns =>
      simp only [accepted?, Option.toList_some, List.flatMap_singleton]
      exact Recording.attemptAll_accepted _ recording columns
  | orderBy entries =>
      simp only [accepted?, Option.toList_some, List.flatMap_singleton]
      exact Recording.attemptAll_accepted _ recording entries
  | _ =>
      unfold accepted?
      apply attemptAll_whole
      rfl

theorem attemptAll_acceptedAll (settings : Settings)
    (recording : Recording Selection) (calls : List SelectCall) :
    recording.attemptAll
        ((acceptedAll settings recording.parts calls).flatMap
          (edits settings)) =
      ⟨(recording.attemptAll (calls.flatMap (edits settings))).parts,
        recording.failure⟩ := by
  induction calls generalizing recording with
  | nil => rfl
  | cons call rest ih =>
      have hparts : ((Recording.start recording.parts).attemptAll
          (call.edits settings)).parts =
            (recording.attemptAll (call.edits settings)).parts := by
        apply Recording.parts_attemptAll_eq
        rfl
      have hrest := ih
        ⟨(recording.attemptAll (call.edits settings)).parts,
          recording.failure⟩
      rw [acceptedAll, List.flatMap_append, Recording.attemptAll_append,
        attemptAll_accepted?, List.flatMap_cons, Recording.attemptAll_append,
        hparts, hrest]
      congr 1
      apply Recording.parts_attemptAll_eq
      rfl

end SelectCall

/-!
## Answers
-/

structure Channel.Refused (built : Except Error Statement) (error : Error) :
    Prop where
  statement : built = .error error
  sql : built.map Statement.sql = .error error
  query : ∀ {σ : Type} (channel : Channel σ) (state : σ),
    channel.query built state = .refused state error
  change : ∀ {σ : Type} (channel : Channel σ) (state : σ),
    channel.change built state = .refused state error

structure SelectBuilder.Refuses (builder : SelectBuilder) (error : Error) :
    Prop where
  statement : Channel.Refused builder.statement error
  aggregateStatement : ∀ function column,
    builder.aggregateStatement function column = .error error
  rows : ∀ {σ : Type} (channel : Channel σ) (state : σ),
    builder.rows channel state = .refused state error
  firstRow : ∀ {σ : Type} (channel : Channel σ) (state : σ),
    builder.firstRow channel state = .refused state error
  firstValue : ∀ {σ : Type} (channel : Channel σ) (state : σ),
    builder.firstValue channel state = .refused state error
  aggregate : ∀ {σ : Type} (channel : Channel σ) (state : σ) function column,
    builder.aggregate channel state function column = .refused state error
  records : ∀ {σ α : Type} (channel : Channel σ) (state : σ)
    (decode : Row → Except Error α),
    builder.records channel state decode = .refused state error
  firstRecord : ∀ {σ α : Type} (channel : Channel σ) (state : σ)
    (decode : Row → Except Error α),
    builder.firstRecord channel state decode = .refused state error

theorem Channel.refused_of_error {built : Except Error Statement}
    {error : Error} (h : built = .error error) : Refused built error := by
  subst h
  constructor
  · rfl
  · rfl
  · intro σ channel state
    rfl
  · intro σ channel state
    rfl

theorem SelectBuilder.refuses_of_checked {builder : SelectBuilder}
    {error : Error} (h : builder.recording.checked = .error error) :
    builder.Refuses error := by
  have hstatement : builder.statement = .error error := by
    rw [statement, h]
    rfl
  have hfirst : builder.firstRowStatement = .error error := by
    rw [firstRowStatement, h]
    rfl
  have haggregate : ∀ function column,
      builder.aggregateStatement function column = .error error := by
    intro function column
    rw [aggregateStatement, h]
    rfl
  have hrows : ∀ {σ : Type} (channel : Channel σ) (state : σ),
      builder.rows channel state = .refused state error := by
    intro σ channel state
    rw [rows, hstatement]
    rfl
  have hrow : ∀ {σ : Type} (channel : Channel σ) (state : σ),
      builder.firstRow channel state = .refused state error := by
    intro σ channel state
    rw [firstRow, hfirst]
    rfl
  constructor
  · exact Channel.refused_of_error hstatement
  · exact haggregate
  · exact hrows
  · exact hrow
  · intro σ channel state
    rw [firstValue, hfirst]
    rfl
  · intro σ channel state function column
    rw [aggregate, haggregate]
    rfl
  · intro σ α channel state decode
    rw [records, hrows]
    rfl
  · intro σ α channel state decode
    rw [firstRecord, hrow]
    rfl

/-!
## Scripts
-/

namespace Script

def table : Script → String
  | select _ table _ | aggregate _ table _ _ _ | insert _ table _
  | update _ table _ | delete _ table _ => table

inductive Parts where
  | selection (selection : Selection)
  | insertion (insertion : Insertion)
  | update (update : Update)
  | deletion (deletion : Deletion)

def parts : Script → Parts
  | select settings table calls | aggregate settings table calls _ _ =>
      .selection
        ((SelectBuilder.start settings table).recordAll calls).recording.parts
  | insert settings table calls =>
      .insertion
        ((InsertBuilder.start settings table).recordAll calls).recording.parts
  | update settings table calls =>
      .update
        ((UpdateBuilder.start settings table).recordAll calls).recording.parts
  | delete settings table calls =>
      .deletion
        ((DeleteBuilder.start settings table).recordAll calls).recording.parts

def refusals : Script → List Error
  | select settings table calls | aggregate settings table calls _ _ =>
      Recording.refusals Selection.empty
        (Selection.setTable table :: calls.flatMap (SelectCall.edits settings))
  | insert settings table calls =>
      Recording.refusals ⟨none, []⟩
        (Insertion.setTable table :: calls.map (Insertion.assign settings))
  | update settings table calls =>
      Recording.refusals ⟨none, [], .empty⟩
        (Update.setTable table :: calls.map (UpdateCall.edit settings))
  | delete settings table calls =>
      Recording.refusals ⟨none, .empty, false⟩
        (Deletion.setTable table :: calls.map (DeleteCall.edit settings))

/-- The script without the calls and the entries that are refused. -/
def accepted : Script → Script
  | select settings table calls =>
      select settings table (SelectCall.acceptedAll settings
        (SelectBuilder.start settings table).recording.parts calls)
  | aggregate settings table calls function column =>
      aggregate settings table (SelectCall.acceptedAll settings
        (SelectBuilder.start settings table).recording.parts calls)
        function column
  | insert settings table calls =>
      insert settings table (Recording.accepted (Insertion.assign settings)
        (InsertBuilder.start settings table).recording.parts calls)
  | update settings table calls =>
      update settings table (Recording.accepted (UpdateCall.edit settings)
        (UpdateBuilder.start settings table).recording.parts calls)
  | delete settings table calls =>
      delete settings table (Recording.accepted (DeleteCall.edit settings)
        (DeleteBuilder.start settings table).recording.parts calls)

/-- Whatever the builder is asked for when the script ends, it answers the
error. -/
def Refuses (error : Error) : Script → Prop
  | select settings table calls | aggregate settings table calls _ _ =>
      ((SelectBuilder.start settings table).recordAll calls).Refuses error
  | insert settings table calls =>
      Channel.Refused
        ((InsertBuilder.start settings table).recordAll calls).statement error
  | update settings table calls =>
      Channel.Refused
        ((UpdateBuilder.start settings table).recordAll calls).statement error
  | delete settings table calls =>
      Channel.Refused
        ((DeleteBuilder.start settings table).recordAll calls).statement error

theorem refuses_of_refusals {script : Script} {error : Error}
    {later : List Error} (h : script.refusals = error :: later) :
    script.Refuses error := by
  cases script with
  | select settings table calls
  | aggregate settings table calls function column =>
      apply SelectBuilder.refuses_of_checked
      rw [SelectBuilder.recordAll_eq]
      exact Recording.checked_of_refusals h
  | insert settings table calls =>
      apply Channel.refused_of_error
      have hchecked := Recording.checked_of_refusals h
      rw [InsertBuilder.recordAll_eq, InsertBuilder.statement]
      exact congrArg (· >>= _) hchecked
  | update settings table calls =>
      apply Channel.refused_of_error
      have hchecked := Recording.checked_of_refusals h
      rw [UpdateBuilder.recordAll_eq, UpdateBuilder.statement]
      exact congrArg (· >>= _) hchecked
  | delete settings table calls =>
      apply Channel.refused_of_error
      have hchecked := Recording.checked_of_refusals h
      rw [DeleteBuilder.recordAll_eq, DeleteBuilder.statement]
      exact congrArg (· >>= _) hchecked

theorem parts_accepted (script : Script) :
    script.accepted.parts = script.parts := by
  cases script with
  | select settings table calls
  | aggregate settings table calls function column =>
      have h := SelectCall.attemptAll_acceptedAll settings
        (SelectBuilder.start settings table).recording calls
      rw [accepted, parts, parts, SelectBuilder.recordAll_eq,
        SelectBuilder.recordAll_eq]
      exact congrArg (fun recording => Parts.selection recording.parts) h
  | insert settings table calls =>
      have h := Recording.attemptAll_accepted (Insertion.assign settings)
        (InsertBuilder.start settings table).recording calls
      rw [accepted, parts, parts, InsertBuilder.recordAll_eq,
        InsertBuilder.recordAll_eq]
      exact congrArg (fun recording => Parts.insertion recording.parts) h
  | update settings table calls =>
      have h := Recording.attemptAll_accepted (UpdateCall.edit settings)
        (UpdateBuilder.start settings table).recording calls
      rw [accepted, parts, parts, UpdateBuilder.recordAll_eq,
        UpdateBuilder.recordAll_eq]
      exact congrArg (fun recording => Parts.update recording.parts) h
  | delete settings table calls =>
      have h := Recording.attemptAll_accepted (DeleteCall.edit settings)
        (DeleteBuilder.start settings table).recording calls
      rw [accepted, parts, parts, DeleteBuilder.recordAll_eq,
        DeleteBuilder.recordAll_eq]
      exact congrArg (fun recording => Parts.deletion recording.parts) h

theorem parse_of_mem_refusals_accepted {script : Script} {error : Error}
    (h : error ∈ script.accepted.refusals) :
    Ident.parse script.table = .error error := by
  cases script with
  | select settings table calls
  | aggregate settings table calls function column =>
      have hkept := SelectCall.attemptAll_acceptedAll settings
        (.start (SelectBuilder.start settings table).recording.parts) calls
      have htable := Recording.error_of_mem_refusals hkept h
      exact map_eq_error_iff.mp htable
  | insert settings table calls =>
      have hkept := Recording.attemptAll_accepted (Insertion.assign settings)
        (.start (InsertBuilder.start settings table).recording.parts) calls
      have htable := Recording.error_of_mem_refusals hkept h
      exact map_eq_error_iff.mp htable
  | update settings table calls =>
      have hkept := Recording.attemptAll_accepted (UpdateCall.edit settings)
        (.start (UpdateBuilder.start settings table).recording.parts) calls
      have htable := Recording.error_of_mem_refusals hkept h
      exact map_eq_error_iff.mp htable
  | delete settings table calls =>
      have hkept := Recording.attemptAll_accepted (DeleteCall.edit settings)
        (.start (DeleteBuilder.start settings table).recording.parts) calls
      have htable := Recording.error_of_mem_refusals hkept h
      exact map_eq_error_iff.mp htable

theorem first_refusal_decides (script : Script) :
    (∀ error later, script.refusals = error :: later → script.Refuses error) ∧
    script.accepted.parts = script.parts ∧
    ∀ error ∈ script.accepted.refusals,
      Ident.parse script.table = .error error := by
  constructor
  · intro error later h
    exact refuses_of_refusals h
  constructor
  · exact parts_accepted script
  · intro error h
    exact parse_of_mem_refusals_accepted h

/-- A repeated key in a list of columns, an unknown operator and a group that was
never opened. -/
theorem first_refusal_decides_of_repeated_key :
    Script.refusals (.select .standard "t"
        [.select ["a", "a", "b"], .filter (.filter .and "c" "like" "x"),
          .filter .closeGroup]) =
      [.validation (.repeatedKey "a" "a"), .invalidOperator "like",
        .unbalancedGroup .endWithoutStart] ∧
    Script.Refuses (.validation (.repeatedKey "a" "a"))
      (.select .standard "t"
        [.select ["a", "a", "b"], .filter (.filter .and "c" "like" "x"),
          .filter .closeGroup]) ∧
    Script.accepted (.select .standard "t"
        [.select ["a", "a", "b"], .filter (.filter .and "c" "like" "x"),
          .filter .closeGroup]) =
      .select .standard "t" [.select ["a", "b"]] := by
  generalize hscript : Script.select .standard "t" _ = script
  have hrefusals : script.refusals =
      [.validation (.repeatedKey "a" "a"), .invalidOperator "like",
        .unbalancedGroup .endWithoutStart] := by
    rw [← hscript]
    cbv
  refine ⟨hrefusals, ?_, ?_⟩
  · exact (first_refusal_decides script).1 _ _ hrefusals
  · rw [← hscript]
    cbv

end Script
end SqlAssembler
