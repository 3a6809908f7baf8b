import Mathlib
import SqlAssembler.Proofs.Scripts.Values
import SqlAssembler.Proofs.Tables.Changes

/-!
# Aggregates and rows

The aggregate form of a selection ranges over the rows that its row form
returns: both read from the same source and bind the same values. So calls that
only say how the rows are returned make no difference to an aggregate.
-/

namespace SqlAssembler

open Recording

/-!
## Calls about the returned rows
-/

namespace SelectCall

/-- Whether the call says how rows are returned and nothing else. The order of
groups is kept beside an aggregate. -/
def concernsRowsOnly (grouped : Bool) : SelectCall → Bool
  | distinct | select _ | limit _ | offset _ | page _ _ => true
  | orderBy _ => !grouped
  | setTable _ | join _ _ _ _ | joinAs _ _ _ _ | filter _ | groupBy _ => false

structure LeavesSource (grouped : Bool) (call : SelectCall) : Prop where
  tableName? : call.tableName? = none
  joins : call.joins = []
  filters : call.filters = []
  groupings : call.groupings = []
  orderings : grouped = true → call.orderings = []

theorem leavesSource_of_concernsRowsOnly {grouped : Bool} {call : SelectCall}
    (h : call.concernsRowsOnly grouped = true) : call.LeavesSource grouped := by
  cases call with
  | orderBy entries =>
      cases grouped with
      | true => cases h
      | false => exact ⟨rfl, rfl, rfl, rfl, fun hgrouped => nomatch hgrouped⟩
  | distinct => exact ⟨rfl, rfl, rfl, rfl, fun _ => rfl⟩
  | select columns => exact ⟨rfl, rfl, rfl, rfl, fun _ => rfl⟩
  | limit count => exact ⟨rfl, rfl, rfl, rfl, fun _ => rfl⟩
  | offset count => exact ⟨rfl, rfl, rfl, rfl, fun _ => rfl⟩
  | page number size => exact ⟨rfl, rfl, rfl, rfl, fun _ => rfl⟩
  | _ => cases h

/-- The longer run makes the same calls and, anywhere among them, some that
concern the returned rows only. -/
inductive RowCallsAdded (grouped : Bool) :
    List SelectCall → List SelectCall → Prop where
  | nil : RowCallsAdded grouped [] []
  | kept {calls longer : List SelectCall} (call : SelectCall)
      (h : RowCallsAdded grouped calls longer) :
      RowCallsAdded grouped (call :: calls) (call :: longer)
  | added {calls longer : List SelectCall} {call : SelectCall}
      (hcall : call.concernsRowsOnly grouped = true)
      (h : RowCallsAdded grouped calls longer) :
      RowCallsAdded grouped calls (call :: longer)

namespace RowCallsAdded

variable {grouped : Bool} {calls longer : List SelectCall} {ι : Type}
  {entries : SelectCall → List ι}

theorem flatMap_eq (h : RowCallsAdded grouped calls longer)
    (hentries : ∀ call, call.LeavesSource grouped → entries call = []) :
    longer.flatMap entries = calls.flatMap entries := by
  induction h with
  | nil => rfl
  | kept call h ih => rw [List.flatMap_cons, List.flatMap_cons, ih]
  | added hcall h ih =>
      rw [List.flatMap_cons,
        hentries _ (leavesSource_of_concernsRowsOnly hcall), ih]
      rfl

theorem lastTable_eq (h : RowCallsAdded grouped calls longer)
    (table : String) : lastTable table longer = lastTable table calls := by
  have hnames : longer.filterMap tableName? = calls.filterMap tableName? := by
    rw [List.filterMap_eq_flatMap_toList, List.filterMap_eq_flatMap_toList]
    apply h.flatMap_eq
    intro call hcall
    rw [hcall.tableName?]
    rfl
  rw [lastTable, lastTable, hnames]

theorem clauseEdits_eq {τ : Type} (h : RowCallsAdded grouped calls longer)
    (hentries : ∀ call, call.LeavesSource grouped → entries call = [])
    (hset : ∀ name, entries (setTable name) = [])
    (selection : Selection) (into : ι → Option Ident → Edit τ) :
    selection.clauseEdits (withoutTables longer) entries into =
      selection.clauseEdits (withoutTables calls) entries into := by
  unfold Selection.clauseEdits
  rw [flatMap_withoutTables entries hset, flatMap_withoutTables entries hset,
    h.flatMap_eq hentries]

end RowCallsAdded
end SelectCall

/-!
## The shared source
-/

namespace Selection

def IsSource (selection : Selection) (text : String) : Prop :=
  ∃ owner conditions, selection.table = some owner ∧
    selection.conditions.render = .ok conditions ∧
    text = " FROM " ++ owner.sql ++
      String.join (selection.joins.map Join.sql) ++ conditions.sql ++
      selection.groupText

theorem rows_of_source {selection : Selection} {source : Fragment}
    (h : selection.source = .ok source) :
    ∃ fragment, selection.rows = .ok fragment := by
  rw [rows, h]
  exact ⟨_, rfl⟩

theorem aggregated_congr {selection other : Selection}
    (htable : other.table = selection.table)
    (hjoins : other.joins = selection.joins)
    (hconditions : other.conditions = selection.conditions)
    (hgroups : other.groupBy = selection.groupBy)
    (horder : selection.groupBy.isEmpty = false →
      other.orderBy = selection.orderBy)
    (aggregate : Aggregate) (column : Column) :
    other.aggregated aggregate column =
      selection.aggregated aggregate column := by
  have hsource : other.source = selection.source := by
    simp only [source, groupText, htable, hjoins, hconditions, hgroups]
  rw [aggregated, aggregated, hsource, hgroups]
  cases hempty : selection.groupBy.isEmpty with
  | true => rfl
  | false => simp only [orderText, horder hempty]

end Selection

namespace SelectBuilder

theorem aggregateStatement_congr {builder other : SelectBuilder}
    (hnone : builder.recording.failure = none)
    (hother : other.recording.failure = none)
    (hsettings : other.settings = builder.settings)
    (htable : other.selection.table = builder.selection.table)
    (haggregated : ∀ aggregate column,
      other.selection.aggregated aggregate column =
        builder.selection.aggregated aggregate column)
    (function column : String) :
    other.aggregateStatement function column =
      builder.aggregateStatement function column := by
  have hchecked : builder.recording.checked = .ok builder.selection :=
    checked_eq_ok_iff.mpr ⟨hnone, rfl⟩
  have hotherChecked : other.recording.checked = .ok other.selection :=
    checked_eq_ok_iff.mpr ⟨hother, rfl⟩
  rw [aggregateStatement, aggregateStatement, hchecked, hotherChecked]
  simp only [bind, Except.bind, hsettings, htable, haggregated]

variable {settings : Settings} {table : String}
  {calls longer : List SelectCall}

theorem aggregateStatement_rowCallsAdded
    (hnone : ((start settings table).recordAll calls).recording.failure = none)
    (hadded : SelectCall.RowCallsAdded
      (!((start settings table).recordAll calls).selection.groupBy.isEmpty)
      calls longer)
    (hlonger : ((start settings table).recordAll longer).recording.failure =
      none)
    (function column : String) :
    ((start settings table).recordAll longer).aggregateStatement
        function column =
      ((start settings table).recordAll calls).aggregateStatement
        function column := by
  rcases recordAll_of_accepted hnone with ⟨owner, howner, _, hselection, _⟩
  rcases recordAll_of_accepted hlonger with ⟨other, hother, _, hextended, _⟩
  rw [hadded.lastTable_eq, howner] at hother
  cases hother
  have hsettings : ((start settings table).recordAll longer).settings =
      ((start settings table).recordAll calls).settings := by
    rw [recordAll_eq, recordAll_eq]
  have htable : ((start settings table).recordAll longer).selection.table =
      ((start settings table).recordAll calls).selection.table := by
    rw [hselection, hextended]
    rfl
  refine aggregateStatement_congr hnone hlonger hsettings htable ?_
    function column
  -- both selections are recorded clause by clause under the same owner, so it
  -- is enough to compare the entries of each clause
  rw [hselection, hextended]
  refine Selection.aggregated_congr rfl ?_ ?_ ?_ ?_
  · exact congrArg (recorded _) (hadded.clauseEdits_eq
      (fun _ hcall => hcall.joins) (fun _ => rfl) _ _)
  · exact congrArg (recorded _) (hadded.clauseEdits_eq
      (fun _ hcall => hcall.filters) (fun _ => rfl) _ _)
  · exact congrArg (recorded _) (hadded.clauseEdits_eq
      (fun _ hcall => hcall.groupings) (fun _ => rfl) _ _)
  · intro hgrouped
    rw [hselection, hgrouped] at hadded
    exact congrArg (recorded _) (hadded.clauseEdits_eq
      (fun _ hcall => hcall.orderings rfl) (fun _ => rfl) _ _)

/-- The aggregate form ranges over the rows that the row form returns: where the
aggregate can be written the rows can, and both share one source and its values.
Calls that only say how rows are returned do not change the aggregate. -/
theorem aggregate_ranges_over_rows (settings : Settings) (table : String)
    (calls : List SelectCall)
    (h : ((start settings table).recordAll calls).recording.failure = none) :
    (∀ function column aggregate,
      ((start settings table).recordAll calls).aggregateStatement
          function column = .ok aggregate →
        ∃ rows parsed argument target source,
          ((start settings table).recordAll calls).statement = .ok rows ∧
          aggregate.params = rows.params ∧
          Aggregate.parse function = .ok parsed ∧
          Column.parseAggregateTarget settings
            ((start settings table).recordAll calls).selection.table column =
              .ok argument ∧
          parsed.target argument = .ok target ∧
          ((start settings table).recordAll calls).selection.IsSource source ∧
          rows.sql = "SELECT " ++
            ((start settings table).recordAll calls).selection.distinctText ++
            ((start settings table).recordAll calls).selection.columnsText ++
            source ++
            ((start settings table).recordAll calls).selection.orderText ++
            ((start settings table).recordAll calls).selection.limitText ++
            ((start settings table).recordAll calls).selection.offsetText ∧
          aggregate.sql = "SELECT " ++ parsed.sql target ++ source ++
            if ((start settings table).recordAll calls).selection.groupBy = []
            then ""
            else
              ((start settings table).recordAll calls).selection.orderText) ∧
    ∀ longer, SelectCall.RowCallsAdded
        (!((start settings table).recordAll calls).selection.groupBy.isEmpty)
        calls longer →
      ((start settings table).recordAll longer).recording.failure = none →
        ∀ function column,
          ((start settings table).recordAll longer).aggregateStatement
              function column =
            ((start settings table).recordAll calls).aggregateStatement
              function column := by
  refine ⟨?_, fun longer hadded hlonger =>
    aggregateStatement_rowCallsAdded h hadded hlonger⟩
  intro function column aggregate haggregate
  rcases aggregateStatement_eq_ok haggregate with
    ⟨parsed, argument, fragment, hparsed, hargument, hfragment, rfl⟩
  rcases Selection.aggregated_eq_ok hfragment with
    ⟨target, source, htarget, hsource, hsql⟩
  rcases Selection.rows_of_source hsource with ⟨rows, hrows⟩
  rcases Selection.rows_eq_ok hrows with ⟨other, hother, hrowsSql⟩
  rw [hsource] at hother
  cases hother
  refine ⟨rows.statement, parsed, argument, target, source.sql,
    statement_eq_ok_iff.mpr ⟨h, rows, hrows, rfl⟩, ?_, hparsed, ?_, htarget,
    Selection.sql_source hsource, hrowsSql, ?_⟩
  · exact (Selection.params_aggregated hfragment).trans
      (Selection.params_rows hrows).symm
  · have hsettings : ((start settings table).recordAll calls).settings =
        settings := by
      rw [recordAll_eq]
      rfl
    rw [hsettings] at hargument
    exact hargument
  · simpa [Fragment.statement] using hsql

/-- Beside a group the order counts, but not the columns and the page. -/
theorem aggregate_ranges_over_rows_of_group :
    ((start .standard "t").recordAll
      [.filter (.filter .and "m" "eq" "1"), .groupBy ["x"],
        .orderBy ["-y"]]).recording.failure = none ∧
    ((start .standard "t").recordAll
      [.distinct, .filter (.filter .and "m" "eq" "1"), .select ["z"],
        .groupBy ["x"], .page 2 10, .orderBy ["-y"]]).recording.failure =
      none ∧
    ((start .standard "t").recordAll
      [.distinct, .filter (.filter .and "m" "eq" "1"), .select ["z"],
        .groupBy ["x"], .page 2 10, .orderBy ["-y"]]).aggregateStatement
          "COUNT_DISTINCT" "x" =
      .ok ⟨"SELECT COUNT(DISTINCT t.x) FROM t WHERE t.m = ? GROUP BY t.x " ++
        "ORDER BY t.y DESC", [.text "1"]⟩ ∧
    ∃ rows, ((start .standard "t").recordAll
      [.filter (.filter .and "m" "eq" "1"), .groupBy ["x"],
        .orderBy ["-y"]]).statement = .ok rows ∧
      rows.params = [.text "1"] := by
  generalize hlonger : [SelectCall.distinct, _, _, _, _, _] = longer
  generalize hcalls : [SelectCall.filter _, _, _] = calls
  have hnone : ((start .standard "t").recordAll calls).recording.failure =
      none := by
    rw [← hcalls]
    cbv
  have hlongerNone :
      ((start .standard "t").recordAll longer).recording.failure = none := by
    rw [← hlonger]
    cbv
  have hgrouped : ((start .standard "t").recordAll calls).selection.groupBy =
      [.plain ⟨[⟨"t", false⟩, ⟨"x", false⟩]⟩ none] := by
    rw [← hcalls]
    cbv
  have hadded : SelectCall.RowCallsAdded true calls longer := by
    rw [← hcalls, ← hlonger]
    refine .added rfl (.kept _ (.added rfl (.kept _ (.added rfl ?_))))
    exact .kept _ .nil
  have haggregate : ((start .standard "t").recordAll calls).aggregateStatement
      "COUNT_DISTINCT" "x" =
        .ok ⟨"SELECT COUNT(DISTINCT t.x) FROM t WHERE t.m = ? GROUP BY t.x " ++
          "ORDER BY t.y DESC", [.text "1"]⟩ := by
    rw [← hcalls]
    cbv
  have h := aggregate_ranges_over_rows .standard "t" calls hnone
  rcases h.1 _ _ _ haggregate with ⟨rows, _, _, _, _, hrows, hparams, _⟩
  rw [hgrouped] at h
  refine ⟨hnone, hlongerNone, ?_, rows, hrows, hparams.symm⟩
  rw [h.2 longer hadded hlongerNone, haggregate]

end SelectBuilder
end SqlAssembler
