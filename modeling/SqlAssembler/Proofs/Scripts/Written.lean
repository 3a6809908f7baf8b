import SqlAssembler.Builder.Delete
import SqlAssembler.Builder.Insert
import SqlAssembler.Builder.Select
import SqlAssembler.Builder.Update
import SqlAssembler.Proofs.Results

/-!
# What builders write

When a builder writes a fragment, and which one: all that is needed of the
writers in order to prove something about every statement.
-/

namespace SqlAssembler

theorem Selection.source_eq_ok_iff {selection : Selection}
    {fragment : Fragment} :
    selection.source = .ok fragment ↔ ∃ table conditions,
      selection.table = some table ∧
      selection.conditions.render = .ok conditions ∧
      fragment = .text (" FROM " ++ table.sql) ::
        selection.joins.map (fun join => .text join.sql) ++
        conditions ++ [.text selection.groupText] := by
  rw [source]
  cases selection.table with
  | none => simp
  | some table => simp [map_eq_ok_iff]

theorem Insertion.fragment_eq_ok_iff {insertion : Insertion}
    {fragment : Fragment} :
    insertion.fragment = .ok fragment ↔ ∃ table,
      insertion.table = some table ∧ insertion.assignments ≠ [] ∧
      fragment = .text ("INSERT INTO " ++ table.sql ++ " (" ++
          Selection.commaList (insertion.assignments.map fun assignment =>
            assignment.column.sql) ++ ") VALUES (") ::
        Fragment.separated ", " (insertion.assignments.map fun assignment =>
          [assignment.value.piece]) ++ [.text ")"] := by
  rw [Insertion.fragment]
  cases insertion.table with
  | none => simp
  | some table =>
      cases insertion.assignments with
      | nil => simp
      | cons assignment rest => simp [eq_comm]

theorem Update.fragment_eq_ok_iff {update : Update} {fragment : Fragment} :
    update.fragment = .ok fragment ↔ ∃ table conditions,
      update.table = some table ∧ update.assignments ≠ [] ∧
      update.conditions.render = .ok conditions ∧
      fragment = .text ("UPDATE " ++ table.sql ++ " SET ") ::
        Fragment.separated ", " (update.assignments.map assignmentFragment) ++
        conditions := by
  rw [Update.fragment]
  cases update.table with
  | none => simp
  | some table =>
      cases update.assignments with
      | nil => simp
      | cons assignment rest => simp [map_eq_ok_iff]

theorem Deletion.fragment_eq_ok_iff {deletion : Deletion}
    {fragment : Fragment} :
    deletion.fragment = .ok fragment ↔ ∃ table restriction,
      deletion.table = some table ∧ deletion.restriction = .ok restriction ∧
      fragment = .text ("DELETE FROM " ++ table.sql) :: restriction := by
  rw [Deletion.fragment]
  cases deletion.table with
  | none => simp
  | some table => simp [map_eq_ok_iff]

theorem Deletion.restriction_eq_ok_iff {deletion : Deletion}
    {restriction : Fragment} :
    deletion.restriction = .ok restriction ↔
      (deletion.conditions.isEmpty = true ∧
        restriction = if deletion.allRows then [] else noRows) ∨
      (deletion.conditions.isEmpty = false ∧
        deletion.conditions.render = .ok restriction) := by
  rw [Deletion.restriction]
  cases deletion.conditions.isEmpty with
  | true =>
      simp only [if_true, Except.ok.injEq, true_and, Bool.true_eq_false,
        false_and, or_false]
      exact eq_comm
  | false => simp

/-!
## Texts of selections
-/

namespace Selection

variable {selection : Selection} {fragment : Fragment}

def distinctText (selection : Selection) : String :=
  if selection.distinct then "DISTINCT " else ""

theorem sql_joins (joins : List Join) :
    Fragment.sql (joins.map fun join => .text join.sql) =
      String.join (joins.map Join.sql) := by
  rw [Fragment.sql, List.map_map]
  rfl

theorem sql_source (h : selection.source = .ok fragment) :
    ∃ owner conditions, selection.table = some owner ∧
      selection.conditions.render = .ok conditions ∧
      fragment.sql = " FROM " ++ owner.sql ++
        String.join (selection.joins.map Join.sql) ++ conditions.sql ++
        selection.groupText := by
  rcases source_eq_ok_iff.mp h with ⟨owner, conditions, htable, hrender, rfl⟩
  refine ⟨owner, conditions, htable, hrender, ?_⟩
  rw [Fragment.sql_append, Fragment.sql_append, Fragment.sql_cons, sql_joins,
    Fragment.sql_text]
  rfl

theorem rows_eq_ok (h : selection.rows = .ok fragment) :
    ∃ source, selection.source = .ok source ∧
      fragment.sql = "SELECT " ++ selection.distinctText ++
        selection.columnsText ++ source.sql ++ selection.orderText ++
        selection.limitText ++ selection.offsetText := by
  rcases map_eq_ok_iff.mp h with ⟨source, hsource, rfl⟩
  refine ⟨source, hsource, ?_⟩
  rw [List.cons_append, Fragment.sql_cons, Fragment.sql_append,
    Fragment.sql_text]
  simp only [Piece.sql, distinctText, String.append_assoc]

theorem aggregated_eq_ok {aggregate : Aggregate} {column : Column}
    (h : selection.aggregated aggregate column = .ok fragment) :
    ∃ target source, aggregate.target column = .ok target ∧
      selection.source = .ok source ∧
      fragment.sql = "SELECT " ++ aggregate.sql target ++ source.sql ++
        if selection.groupBy.isEmpty then "" else selection.orderText := by
  rw [aggregated] at h
  split at h
  · cases h
  · rename_i target htarget
    rcases map_eq_ok_iff.mp h with ⟨source, hsource, rfl⟩
    refine ⟨target, source, htarget, hsource, ?_⟩
    rw [List.cons_append, Fragment.sql_cons, Fragment.sql_append,
      Fragment.sql_text]
    simp only [Piece.sql, String.append_assoc]

end Selection

namespace SelectBuilder

open Recording

theorem statement_eq_ok_iff {builder : SelectBuilder}
    {statement : Statement} :
    builder.statement = .ok statement ↔
      builder.recording.failure = none ∧ ∃ fragment,
        builder.selection.rows = .ok fragment ∧
        statement = fragment.statement := by
  rw [SelectBuilder.statement, bind_eq_ok_iff]
  constructor
  · rintro ⟨parts, hchecked, hrest⟩
    rcases checked_eq_ok_iff.mp hchecked with ⟨hnone, rfl⟩
    rcases bind_eq_ok_iff.mp hrest with ⟨fragment, hfragment, hpure⟩
    cases hpure
    exact ⟨hnone, fragment, hfragment, rfl⟩
  · rintro ⟨hnone, fragment, hfragment, rfl⟩
    exact ⟨_, checked_eq_ok_iff.mpr ⟨hnone, rfl⟩,
      bind_eq_ok_iff.mpr ⟨fragment, hfragment, rfl⟩⟩

theorem aggregateStatement_eq_ok {builder : SelectBuilder}
    {function raw : String} {statement : Statement}
    (h : builder.aggregateStatement function raw = .ok statement) :
    ∃ aggregate column fragment, Aggregate.parse function = .ok aggregate ∧
      Column.parseAggregateTarget builder.settings builder.selection.table
        raw = .ok column ∧
      builder.selection.aggregated aggregate column = .ok fragment ∧
      statement = fragment.statement := by
  rcases bind_eq_ok_iff.mp h with ⟨parts, hchecked, hrest⟩
  rcases checked_eq_ok_iff.mp hchecked with ⟨_, rfl⟩
  rcases bind_eq_ok_iff.mp hrest with ⟨aggregate, haggregate, hrest⟩
  rcases bind_eq_ok_iff.mp hrest with ⟨column, hcolumn, hrest⟩
  rcases bind_eq_ok_iff.mp hrest with ⟨fragment, hfragment, hpure⟩
  cases hpure
  exact ⟨aggregate, column, fragment, haggregate, hcolumn, hfragment, rfl⟩

theorem sql_statement {builder : SelectBuilder} {owner : Ident}
    {statement : Statement} (htable : builder.selection.table = some owner)
    (h : builder.statement = .ok statement) :
    ∃ rest, statement.sql = "SELECT " ++ builder.selection.distinctText ++
      builder.selection.columnsText ++ " FROM " ++ owner.sql ++ rest := by
  rcases statement_eq_ok_iff.mp h with ⟨_, fragment, hrows, rfl⟩
  rcases Selection.rows_eq_ok hrows with ⟨source, hsource, hsql⟩
  rcases Selection.sql_source hsource with ⟨other, _, hother, _, hfrom⟩
  cases htable.symm.trans hother
  rw [Fragment.statement, hsql, hfrom]
  simp only [String.append_assoc]
  exact ⟨_, rfl⟩

theorem sql_aggregateStatement {builder : SelectBuilder} {owner : Ident}
    {function raw : String} {statement : Statement}
    (htable : builder.selection.table = some owner)
    (h : builder.aggregateStatement function raw = .ok statement) :
    ∃ aggregate column target rest, Aggregate.parse function = .ok aggregate ∧
      Column.parseAggregateTarget builder.settings (some owner) raw =
        .ok column ∧
      aggregate.target column = .ok target ∧
      statement.sql = "SELECT " ++ aggregate.sql target ++
        " FROM " ++ owner.sql ++ rest := by
  rcases aggregateStatement_eq_ok h with
    ⟨aggregate, column, fragment, haggregate, hcolumn, hfragment, rfl⟩
  rcases Selection.aggregated_eq_ok hfragment with
    ⟨target, source, htarget, hsource, hsql⟩
  rcases Selection.sql_source hsource with ⟨other, _, hother, _, hfrom⟩
  cases htable.symm.trans hother
  rw [htable] at hcolumn
  rw [Fragment.statement, hsql, hfrom]
  simp only [String.append_assoc]
  exact ⟨aggregate, column, target, _, haggregate, hcolumn, htarget, rfl⟩

end SelectBuilder
end SqlAssembler
