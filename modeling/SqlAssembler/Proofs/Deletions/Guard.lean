import Mathlib
import SqlAssembler.Proofs.Conditions.Recorded
import SqlAssembler.Proofs.Refusals.Edits
import SqlAssembler.Proofs.Scripts.Written

/-!
# Guarded deletions

A deletion that was not allowed to remove all rows is restricted by every
condition that its caller asked for. Without any it removes nothing. The builder
looks only at whether anything was recorded, and groups are recorded as well;
but a group that is closed holds a condition, and one that is not leaves no
statement.
-/

namespace SqlAssembler

namespace DeleteCall

def allowed? : DeleteCall → Option Bool
  | allowAllRows allow => some allow
  | filter _ => none

def condition? (settings : Settings) (table : Ident) :
    DeleteCall → Option (Except Error Fragment)
  | allowAllRows _ => none
  | filter call => call.condition? settings (some table)

/-- Whether the last call that says something about all rows allows their
removal. -/
def allowsAllRows (calls : List DeleteCall) : Bool :=
  (calls.filterMap allowed?).getLast?.getD false

theorem allowsAllRows_filter (calls : List DeleteCall) (call : FilterCall) :
    allowsAllRows (calls ++ [filter call]) = allowsAllRows calls := by
  simp [allowsAllRows, allowed?]

theorem allowsAllRows_allow (calls : List DeleteCall) (allow : Bool) :
    allowsAllRows (calls ++ [allowAllRows allow]) = allow := by
  simp [allowsAllRows, allowed?]

end DeleteCall

/-!
## What a deletion records
-/

namespace Deletion

variable {settings : Settings} {owner : Ident} {calls : List DeleteCall}
  {deletion : Deletion}

structure Holds (settings : Settings) (owner : Ident) (calls : List DeleteCall)
    (deletion : Deletion) : Prop where
  table : deletion.table = some owner
  allRows : deletion.allRows = DeleteCall.allowsAllRows calls
  recorded : deletion.conditions.Recorded
  conditions : calls.filterMap (DeleteCall.condition? settings owner) =
    deletion.conditions.fragments.map .ok
  isEmpty : deletion.conditions.isEmpty = true →
    ∀ call, .filter call ∉ calls

theorem holds_nil : Holds settings owner [] ⟨some owner, .empty, false⟩ := by
  constructor
  · rfl
  · rfl
  · exact Conditions.recorded_empty
  · rfl
  · intro _ call hmem
    cases hmem

theorem Holds.allow (h : Holds settings owner calls deletion) (allow : Bool) :
    Holds settings owner (calls ++ [.allowAllRows allow])
      { deletion with allRows := allow } := by
  constructor
  · exact h.table
  · rw [DeleteCall.allowsAllRows_allow]
  · exact h.recorded
  · simp [h.conditions, DeleteCall.condition?]
  · intro hempty call hmem
    rcases List.mem_append.mp hmem with hold | hnew
    · exact h.isEmpty hempty call hold
    · cases List.mem_singleton.mp hnew

theorem Holds.filter {conditions : Conditions} {call : FilterCall}
    (h : Holds settings owner calls deletion)
    (happly : call.apply settings (some owner) deletion.conditions =
      .ok conditions) :
    Holds settings owner (calls ++ [.filter call])
      { deletion with conditions } := by
  constructor
  · exact h.table
  · rw [DeleteCall.allowsAllRows_filter]
    exact h.allRows
  · exact FilterCall.recorded_apply h.recorded happly
  · rw [List.filterMap_append, h.conditions, FilterCall.fragments_apply happly]
    cases hcondition : call.condition? settings (some owner) with
    | none => simp [DeleteCall.condition?, hcondition]
    | some condition => simp [DeleteCall.condition?, hcondition]
  · intro hempty
    rw [FilterCall.isEmpty_apply happly] at hempty
    cases hempty

theorem Holds.edit {call : DeleteCall} {after : Deletion}
    (h : Holds settings owner calls deletion)
    (hedit : call.edit settings deletion = .ok after) :
    Holds settings owner (calls ++ [call]) after := by
  cases call with
  | allowAllRows allow =>
      cases hedit
      exact h.allow allow
  | filter call =>
      rcases map_eq_ok_iff.mp hedit with ⟨conditions, happly, rfl⟩
      rw [h.table] at happly
      exact h.filter happly

theorem Holds.restriction {restriction : Fragment}
    (h : Holds settings owner calls deletion)
    (hguard : DeleteCall.allowsAllRows calls = false)
    (hrestriction : deletion.restriction = .ok restriction) :
    ((∀ call, .filter call ∉ calls) ∧ restriction.sql = " WHERE 1=0") ∨
    ∃ items, Items.Filled items ∧ Items.fragments items ≠ [] ∧
      calls.filterMap (DeleteCall.condition? settings owner) =
        (Items.fragments items).map .ok ∧
      restriction.sql = " WHERE " ++ Items.sql items := by
  rcases restriction_eq_ok_iff.mp hrestriction with ⟨hempty, rfl⟩ |
    ⟨hsome, hrender⟩
  · left
    constructor
    · exact h.isEmpty hempty
    · rw [h.allRows, hguard]
      rfl
  · right
    rcases h.recorded.render_eq_ok hrender with
      ⟨items, hfilled, hfragments, hne, hsql⟩
    refine ⟨items, hfilled, ?_, ?_, ?_⟩
    -- groups alone are not enough: each of them holds an item
    · exact Items.fragments_ne_nil hfilled (hne hsome)
    · rw [h.conditions, hfragments]
    · rw [hsql, if_neg (hne hsome)]

end Deletion

namespace DeleteBuilder

variable {settings : Settings} {table : String} {calls : List DeleteCall}

theorem holds_of_checked {deletion : Deletion}
    (h : ((start settings table).recordAll calls).recording.checked =
      .ok deletion) :
    ∃ owner, Ident.parse table = .ok owner ∧
      Deletion.Holds settings owner calls deletion := by
  rcases Recording.checked_eq_ok_iff.mp h with ⟨hnone, rfl⟩
  rw [recordAll_eq] at hnone ⊢
  cases howner : Ident.parse table with
  | error error =>
      have hrefused : Deletion.setTable table
          (Recording.start ⟨none, .empty, false⟩).parts = .error error :=
        map_eq_error_iff.mpr howner
      rcases Recording.exists_failure_of_refused hrefused
        (calls.map (DeleteCall.edit settings)) with ⟨first, hfirst⟩
      have hsome := hfirst.symm.trans hnone
      cases hsome
  | ok owner =>
      have htable : Deletion.setTable table
          (Recording.start ⟨none, .empty, false⟩).parts =
            .ok ⟨some owner, .empty, false⟩ :=
        map_eq_ok_iff.mpr ⟨owner, howner, rfl⟩
      have hstart : (start settings table).recording =
          ⟨⟨some owner, .empty, false⟩, none⟩ :=
        Recording.attempt_of_ok htable
      rw [hstart] at hnone ⊢
      refine ⟨owner, rfl, ?_⟩
      rw [← List.nil_append calls]
      apply Recording.attemptAll_tracks
        (P := Deletion.Holds settings owner) (fun _ _ _ _ h hedit => h.edit hedit)
      · exact Deletion.holds_nil
      · exact hnone

theorem guarded_statement
    (hguard : DeleteCall.allowsAllRows calls = false) :
    (∀ statement,
      ((start settings table).recordAll calls).statement = .ok statement →
      ∃ owner, Ident.parse table = .ok owner ∧
        (((∀ call, .filter call ∉ calls) ∧
          statement.sql = "DELETE FROM " ++ owner.sql ++ " WHERE 1=0") ∨
        ∃ items, Items.Filled items ∧ Items.fragments items ≠ [] ∧
          calls.filterMap (DeleteCall.condition? settings owner) =
            (Items.fragments items).map .ok ∧
          statement.sql = "DELETE FROM " ++ owner.sql ++ " WHERE " ++
            Items.sql items)) ∧
    ∀ before call rest error, calls = before ++ .filter call :: rest →
      Deletion.addFilter settings call
          ((start settings table).recordAll before).recording.parts =
        .error error →
      ∃ first, ((start settings table).recordAll calls).statement =
        .error first := by
  constructor
  · intro statement hstatement
    rcases bind_eq_ok_iff.mp hstatement with ⟨deletion, hchecked, hrest⟩
    rcases bind_eq_ok_iff.mp hrest with ⟨fragment, hfragment, hlast⟩
    cases hlast
    rcases holds_of_checked hchecked with ⟨owner, howner, hholds⟩
    rcases Deletion.fragment_eq_ok_iff.mp hfragment with
      ⟨table, restriction, htable, hrestriction, rfl⟩
    rw [hholds.table] at htable
    cases htable
    refine ⟨owner, howner, ?_⟩
    have hsql : (Fragment.statement
        (.text ("DELETE FROM " ++ owner.sql) :: restriction)).sql =
          "DELETE FROM " ++ owner.sql ++ restriction.sql :=
      Fragment.sql_cons _ _
    rcases hholds.restriction hguard hrestriction with ⟨hnone, hguarded⟩ |
      ⟨items, hfilled, hne, hconditions, hitems⟩
    · left
      refine ⟨hnone, ?_⟩
      rw [hsql, hguarded]
    · right
      refine ⟨items, hfilled, hne, hconditions, ?_⟩
      rw [hsql, hitems, String.append_assoc, String.append_assoc,
        String.append_assoc]
  · intro before call rest error hcalls hrefused
    rw [recordAll_eq] at hrefused ⊢
    rw [hcalls, List.map_append, List.map_cons]
    rcases Recording.checked_of_refused hrefused
      (rest.map (DeleteCall.edit settings)) with ⟨first, hfirst⟩
    refine ⟨first, ?_⟩
    rw [statement]
    exact congrArg (· >>= _) hfirst

/-- A condition in a group, and a group that is closed before it holds one. The
permission to remove all rows was withdrawn. -/
theorem guarded_statement_of_groups :
    (∃ owner items, Ident.parse "t" = .ok owner ∧ Items.Filled items ∧
      Items.fragments items ≠ [] ∧
      "DELETE FROM t WHERE (t.a = ?)" =
        "DELETE FROM " ++ owner.sql ++ " WHERE " ++ Items.sql items) ∧
    ∃ first, DeleteBuilder.statement ((start .standard "t").recordAll
      [.filter (.openGroup .and), .filter .closeGroup]) = .error first := by
  constructor
  · generalize hcalls : [DeleteCall.allowAllRows true,
      .filter (.openGroup .and),
      .filter (.filterBy "a" (.comparison .eq) "1"), .filter .closeGroup,
      .allowAllRows false] = calls
    have hstatement : ((start .standard "t").recordAll calls).statement =
        .ok ⟨"DELETE FROM t WHERE (t.a = ?)", [.text "1"]⟩ := by
      rw [← hcalls]
      cbv
    have hguard : DeleteCall.allowsAllRows calls = false := by
      rw [← hcalls]
      rfl
    rcases (guarded_statement hguard).1 _ hstatement with
      ⟨owner, howner, ⟨hnone, _⟩ | ⟨items, hfilled, hne, _, hsql⟩⟩
    · have hgroup : .filter .closeGroup ∈ calls := by
        simp [← hcalls]
      exact absurd hgroup (hnone .closeGroup)
    · exact ⟨owner, items, howner, hfilled, hne, hsql⟩
  · apply (guarded_statement rfl).2 [.filter (.openGroup .and)] .closeGroup []
      .emptyGroup rfl
    cbv

end DeleteBuilder
end SqlAssembler
