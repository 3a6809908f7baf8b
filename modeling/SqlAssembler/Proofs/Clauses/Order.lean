import Mathlib
import SqlAssembler.Execution.Running
import SqlAssembler.Proofs.Clauses.Basic

/-!
# The order of clauses

How calls for different clauses are interleaved makes no difference: only the
order of the calls for each clause counts, and of limit, offset and DISTINCT
only what was said last. Table calls are left out, because columns are qualified
by the table that is known when they are recorded.
-/

namespace SqlAssembler

open Recording

/-- The calls say the same about each clause, in the same order. -/
structure SameClauses (calls others : List SelectCall) : Prop where
  projections : calls.flatMap SelectCall.projections =
    others.flatMap SelectCall.projections
  joins : calls.flatMap SelectCall.joins = others.flatMap SelectCall.joins
  filters : calls.flatMap SelectCall.filters =
    others.flatMap SelectCall.filters
  groupings : calls.flatMap SelectCall.groupings =
    others.flatMap SelectCall.groupings
  orderings : calls.flatMap SelectCall.orderings =
    others.flatMap SelectCall.orderings
  distinct : calls.any SelectCall.isDistinct =
    others.any SelectCall.isDistinct
  limit : (calls.filterMap SelectCall.limit?).getLast? =
    (others.filterMap SelectCall.limit?).getLast?
  offset : (calls.filterMap SelectCall.offset?).getLast? =
    (others.filterMap SelectCall.offset?).getLast?

namespace SameClauses

variable {settings : Settings} {selection : Selection}
  {calls others : List SelectCall}

theorem extended_eq (h : SameClauses calls others) :
    selection.extended settings calls =
      selection.extended settings others := by
  simp only [Selection.extended, Selection.clauseEdits, h.projections, h.joins,
    h.filters, h.groupings, h.orderings, h.distinct, h.limit, h.offset]

theorem clauseRefusals_eq (h : SameClauses calls others) :
    selection.clauseRefusals settings calls =
      selection.clauseRefusals settings others := by
  simp only [Selection.clauseRefusals, Selection.clauseEdits, h.projections,
    h.joins, h.filters, h.groupings, h.orderings]

theorem refusals_perm (h : SameClauses calls others)
    (hcalls : SelectCall.LeaveTable calls)
    (hothers : SelectCall.LeaveTable others) :
    (refusals selection (calls.flatMap (SelectCall.edits settings))).Perm
      (refusals selection (others.flatMap (SelectCall.edits settings))) := by
  refine (Selection.refusals_calls hcalls).trans ?_
  rw [h.clauseRefusals_eq]
  exact (Selection.refusals_calls hothers).symm

end SameClauses

namespace SelectBuilder

theorem selection_recordAll (builder : SelectBuilder)
    {calls : List SelectCall} (h : SelectCall.LeaveTable calls) :
    (builder.recordAll calls).selection =
      builder.selection.extended builder.settings calls := by
  rw [recordAll_eq, selection, parts_attemptAll]
  exact Selection.recorded_calls h

variable {builder : SelectBuilder} {calls others : List SelectCall}

theorem selection_eq_of_sameClauses
    (hcalls : SelectCall.LeaveTable calls)
    (hothers : SelectCall.LeaveTable others)
    (h : SameClauses calls others) :
    (builder.recordAll calls).selection =
      (builder.recordAll others).selection := by
  rw [selection_recordAll builder hcalls, selection_recordAll builder hothers,
    h.extended_eq]

theorem failure_eq_none_of_sameClauses
    (hcalls : SelectCall.LeaveTable calls)
    (hothers : SelectCall.LeaveTable others)
    (h : SameClauses calls others) :
    (builder.recordAll calls).recording.failure = none ↔
      (builder.recordAll others).recording.failure = none := by
  have hperm : (refusals builder.recording.parts
      (calls.flatMap (SelectCall.edits builder.settings))).Perm
        (refusals builder.recording.parts
          (others.flatMap (SelectCall.edits builder.settings))) :=
    h.refusals_perm hcalls hothers
  rw [recordAll_eq, recordAll_eq, failure_eq_none_iff, failure_eq_none_iff]
  constructor
  · rintro ⟨hstart, hnone⟩
    refine ⟨hstart, ?_⟩
    rw [hnone] at hperm
    exact List.nil_perm.mp hperm
  · rintro ⟨hstart, hnone⟩
    refine ⟨hstart, ?_⟩
    rw [hnone] at hperm
    exact List.perm_nil.mp hperm

theorem recordAll_eq_of_sameClauses
    (hcalls : SelectCall.LeaveTable calls)
    (hothers : SelectCall.LeaveTable others)
    (h : SameClauses calls others)
    (hnone : (builder.recordAll calls).recording.failure = none) :
    builder.recordAll calls = builder.recordAll others := by
  have hparts : (builder.recordAll calls).recording.parts =
      (builder.recordAll others).recording.parts :=
    selection_eq_of_sameClauses hcalls hothers h
  have hother := (failure_eq_none_of_sameClauses hcalls hothers h).mp hnone
  have hrecording : (builder.recordAll calls).recording =
      (builder.recordAll others).recording := by
    cases hfirst : (builder.recordAll calls).recording
    cases hsecond : (builder.recordAll others).recording
    rw [hfirst] at hparts hnone
    rw [hsecond] at hparts hother
    cases hparts
    cases hnone
    cases hother
    rfl
  rw [recordAll_eq, recordAll_eq] at hrecording ⊢
  exact congrArg (Builder.mk builder.settings) hrecording

/-- Calls that say the same about each clause lead to the same selection. If one
of the two sequences is accepted the other one is, and then every answer is the
same. -/
theorem interleaving_irrelevant (settings : Settings) (table : String)
    (calls others : List SelectCall)
    (hcalls : SelectCall.LeaveTable calls)
    (hothers : SelectCall.LeaveTable others)
    (h : SameClauses calls others) :
    ((start settings table).recordAll calls).selection =
        ((start settings table).recordAll others).selection ∧
    (((start settings table).recordAll calls).recording.failure = none ↔
      ((start settings table).recordAll others).recording.failure = none) ∧
    (((start settings table).recordAll calls).recording.failure = none →
      ((start settings table).recordAll calls).statement =
        ((start settings table).recordAll others).statement ∧
      (∀ function column,
        ((start settings table).recordAll calls).aggregateStatement
            function column =
          ((start settings table).recordAll others).aggregateStatement
            function column) ∧
      ((start settings table).recordAll calls).nesting =
        ((start settings table).recordAll others).nesting) := by
  refine ⟨selection_eq_of_sameClauses hcalls hothers h,
    failure_eq_none_of_sameClauses hcalls hothers h, fun hnone => ?_⟩
  rw [recordAll_eq_of_sameClauses hcalls hothers h hnone]
  exact ⟨rfl, fun function column => rfl, rfl⟩

/-- A page is a limit and an offset, and what was said before it is forgotten.
-/
theorem interleaving_irrelevant_of_page :
    SameClauses
      [.limit 3, .select ["a", "b->c"], .filter (.filter .or "d" "eq" "x"),
        .page 2 10, .orderBy ["-a"]]
      [.orderBy ["-a"], .select ["a"], .offset 10, .limit 10,
        .filter (.filter .or "d" "eq" "x"), .select ["b->c"]] ∧
    ((start .standard "t").recordAll
      [.limit 3, .select ["a", "b->c"], .filter (.filter .or "d" "eq" "x"),
        .page 2 10, .orderBy ["-a"]]).recording.failure = none ∧
    ((start .standard "t").recordAll
      [.limit 3, .select ["a", "b->c"], .filter (.filter .or "d" "eq" "x"),
        .page 2 10, .orderBy ["-a"]]).statement =
      ((start .standard "t").recordAll
        [.orderBy ["-a"], .select ["a"], .offset 10, .limit 10,
          .filter (.filter .or "d" "eq" "x"), .select ["b->c"]]).statement := by
  generalize hcalls : [SelectCall.limit 3, _, _, _, _] = calls
  generalize hothers : [SelectCall.orderBy ["-a"], _, _, _, _, _] = others
  have hsame : SameClauses calls others := by
    rw [← hcalls, ← hothers]
    constructor <;> rfl
  have hleave : SelectCall.LeaveTable calls := by
    rw [← hcalls]
    simp [SelectCall.LeaveTable]
  have hleaveOthers : SelectCall.LeaveTable others := by
    rw [← hothers]
    simp [SelectCall.LeaveTable]
  have hnone : ((start .standard "t").recordAll calls).recording.failure =
      none := by
    rw [← hcalls]
    cbv
  have h := interleaving_irrelevant .standard "t" calls others hleave
    hleaveOthers hsame
  exact ⟨hsame, hnone, (h.2.2 hnone).1⟩

end SelectBuilder
end SqlAssembler
