import Mathlib
import SqlAssembler.Execution.Running
import SqlAssembler.Proofs.Clauses.Projections
import SqlAssembler.Proofs.Qualification.Columns
import SqlAssembler.Proofs.Scripts.Written
import SqlAssembler.Proofs.Tables.Changes

/-!
# The owner of the columns

In an accepted run the table can only have changed while that was harmless. The
run leaves behind what it would have left behind had it started with the table
that is named last, and every column that was given as a single name belongs to
the table that the statement reads from.
-/

namespace SqlAssembler

open Recording

/-!
## Columns as they were given
-/

def FilterCall.ownedCondition? (functions : FunctionNames) (owner : Ident) :
    FilterCall → Option (Except Error Fragment)
  | filter _ column operator value => some do
      let operator ← Operator.parse operator
      let given ← Column.parse (.asGiven functions) none column
      Filter.condition functions (given.ownedBy (some owner)).sql operator value
  | filterBy column operator value => some do
      let given ← Column.parse (.asGiven functions) none column
      Filter.condition functions (given.ownedBy (some owner)).sql operator value
  | openGroup _ | closeGroup => none

/-- The selection reads from the owner, and the columns that it records are
those that the calls gave, with the owner in front of single names. -/
structure Selection.OwnedBy (functions : FunctionNames) (owner : Ident)
    (calls : List SelectCall) (selection : Selection) : Prop where
  table : selection.table = some owner
  columns : List.Forall₂
    (fun raw column =>
      (Column.parseProjection (.asGiven functions) none raw).map
        (Column.ownedBy (some owner)) = .ok column)
    (calls.flatMap SelectCall.projections) selection.columns
  joins : List.Forall₂
    (fun entry join =>
      (Column.parse (.asGiven functions) none entry.left).map
        (Column.ownedBy (some owner)) = .ok join.left)
    (calls.flatMap SelectCall.joins) selection.joins
  conditions :
    (calls.flatMap SelectCall.filters).filterMap
        (FilterCall.ownedCondition? functions owner) =
      selection.conditions.fragments.map .ok
  groupBy : List.Forall₂
    (fun raw column =>
      (Column.parse (.asGiven functions) none raw).map
        (Column.ownedBy (some owner)) = .ok column)
    (calls.flatMap SelectCall.groupings) selection.groupBy
  orderBy : List.Forall₂
    (fun raw key =>
      (SortKey.parse (.asGiven functions) none raw).map
        (SortKey.ownedBy (some owner)) = .ok key)
    (calls.flatMap SelectCall.orderings) selection.orderBy

/-!
## Recording what was given
-/

theorem Recording.forall₂_recorded {ι κ : Type} {into : ι → Edit (List κ)}
    {R : ι → κ → Prop}
    (hinto : ∀ entry items after, into entry items = .ok after →
      ∃ item, R entry item ∧ after = items ++ [item])
    {entries : List ι} (hnone : refusals [] (entries.map into) = []) :
    List.Forall₂ R entries (recorded [] (entries.map into)) := by
  have hfailure :
      ((start ([] : List κ)).attemptAll (entries.map into)).failure = none :=
    (failure_eq_none_iff _ _).mpr ⟨rfl, hnone⟩
  have hstep : ∀ done items entry after, List.Forall₂ R done items →
      into entry items = .ok after →
        List.Forall₂ R (done ++ [entry]) after := by
    intro done items entry after hdone hafter
    rcases hinto entry items after hafter with ⟨item, hitem, rfl⟩
    exact List.rel_append hdone (.cons hitem .nil)
  exact attemptAll_tracks hstep .nil hfailure

variable {functions : FunctionNames} {owner : Ident}

theorem FilterCall.condition?_qualifying (call : FilterCall) :
    call.condition? (.qualifying functions) (some owner) =
      call.ownedCondition? functions owner := by
  have hcompared : ∀ column operator value,
      compared (.qualifying functions) (some owner) column operator value =
        (do let given ← Column.parse (.asGiven functions) none column
            Filter.condition functions (given.ownedBy (some owner)).sql
              operator value) := by
    intro column operator value
    rw [compared, Column.parse_qualifying functions (some owner) none]
    cases Column.parse (.asGiven functions) none column <;> rfl
  cases call with
  | filter connector column operator value =>
      simp only [condition?, ownedCondition?, hcompared]
  | filterBy column operator value =>
      simp only [condition?, ownedCondition?, hcompared]
  | openGroup connector => rfl
  | closeGroup => rfl

theorem FilterCall.ownedConditions_recorded {calls : List FilterCall}
    (hnone : refusals Conditions.empty
      (calls.map fun call =>
        Selection.filterInto (.qualifying functions) call (some owner)) = []) :
    calls.filterMap (ownedCondition? functions owner) =
      (recorded Conditions.empty
        (calls.map fun call =>
          Selection.filterInto (.qualifying functions) call
            (some owner))).fragments.map .ok := by
  rw [← conditions_recorded hnone]
  exact List.filterMap_congr fun call _ => (condition?_qualifying call).symm

namespace Selection

variable {calls : List SelectCall}

theorem joinInto_eq_ok {settings : Settings} {entry : JoinEntry}
    {table : Option Ident} {joins after : List Join}
    (h : joinInto settings entry table joins = .ok after) :
    ∃ join, Column.parse settings table entry.left = .ok join.left ∧
      after = joins ++ [join] := by
  rcases bind_eq_ok_iff.mp h with ⟨kind, _, hmap⟩
  rcases map_eq_ok_iff.mp hmap with ⟨join, hjoin, rfl⟩
  rcases bind_eq_ok_iff.mp hjoin with ⟨table, _, hrest⟩
  rcases bind_eq_ok_iff.mp hrest with ⟨left, hleft, hrest⟩
  rcases bind_eq_ok_iff.mp hrest with ⟨right, _, hpure⟩
  cases hpure
  exact ⟨_, hleft, rfl⟩

theorem ownedBy_extended
    (hnone : (ofTable owner).clauseRefusals (.qualifying functions) calls =
      []) :
    ((ofTable owner).extended (.qualifying functions) calls).OwnedBy functions
      owner calls := by
  simp only [clauseRefusals, List.append_eq_nil_iff, clauseEdits_eq] at hnone
  rcases hnone with ⟨⟨⟨⟨hjoins, hcolumns⟩, hconditions⟩, hgroups⟩, horders⟩
  unfold extended
  simp only [clauseEdits_eq]
  constructor
  · rfl
  · refine forall₂_recorded ?_ hcolumns
    intro raw columns after h
    rcases projectInto_eq_ok h with ⟨column, hcolumn, rfl⟩
    rw [Column.parseProjection_qualifying functions _ none] at hcolumn
    exact ⟨column, hcolumn, rfl⟩
  · refine forall₂_recorded ?_ hjoins
    intro entry joins after h
    rcases joinInto_eq_ok h with ⟨join, hleft, rfl⟩
    rw [Column.parse_qualifying functions _ none] at hleft
    exact ⟨join, hleft, rfl⟩
  · exact FilterCall.ownedConditions_recorded hconditions
  · refine forall₂_recorded ?_ hgroups
    intro raw columns after h
    rcases map_eq_ok_iff.mp h with ⟨column, hcolumn, rfl⟩
    rw [Column.parse_qualifying functions _ none] at hcolumn
    exact ⟨column, hcolumn, rfl⟩
  · refine forall₂_recorded ?_ horders
    intro raw keys after h
    rcases map_eq_ok_iff.mp h with ⟨key, hkey, rfl⟩
    rw [SortKey.parse_qualifying functions _ none] at hkey
    exact ⟨key, hkey, rfl⟩

theorem OwnedBy.of_withoutTables {selection : Selection}
    (h : selection.OwnedBy functions owner (SelectCall.withoutTables calls)) :
    selection.OwnedBy functions owner calls := by
  have hentries := fun {ι : Type} (entries : SelectCall → List ι)
    (hset : ∀ name, entries (.setTable name) = []) =>
      SelectCall.flatMap_withoutTables entries hset calls
  constructor
  · exact h.table
  · rw [← hentries SelectCall.projections fun _ => rfl]
    exact h.columns
  · rw [← hentries SelectCall.joins fun _ => rfl]
    exact h.joins
  · rw [← hentries SelectCall.filters fun _ => rfl]
    exact h.conditions
  · rw [← hentries SelectCall.groupings fun _ => rfl]
    exact h.groupBy
  · rw [← hentries SelectCall.orderings fun _ => rfl]
    exact h.orderBy

end Selection

/-!
## Runs
-/

namespace SelectBuilder

variable {settings : Settings} {table : String} {calls : List SelectCall}

/-- With qualification, what an accepted run records belongs to the table that
is named last. -/
theorem ownedBy_of_accepted (hqualify : settings.qualifyColumns = true)
    (h : ((start settings table).recordAll calls).recording.failure = none) :
    ∃ owner, Ident.parse (SelectCall.lastTable table calls) = .ok owner ∧
      ((start settings table).recordAll calls).selection.OwnedBy
        settings.functions owner calls := by
  rcases recordAll_of_accepted h with
    ⟨owner, howner, _, hselection, hrefusals⟩
  have hsettings := settings.eq_qualifying hqualify
  rw [hsettings] at hrefusals
  refine ⟨owner, howner, ?_⟩
  rw [hselection, hsettings]
  exact (Selection.ownedBy_extended hrefusals).of_withoutTables

def direct (settings : Settings) (table : String) (calls : List SelectCall) :
    SelectBuilder :=
  (start settings (SelectCall.lastTable table calls)).recordAll
    (SelectCall.withoutTables calls)

/-- The table changes of an accepted run are harmless: the selection and every
answer are those of the direct run. With qualification, every column that was
given as a single name belongs to the one table that the statements read from.
-/
theorem table_changes_harmless (settings : Settings) (table : String)
    (calls : List SelectCall)
    (h : ((start settings table).recordAll calls).recording.failure = none) :
    ((start settings table).recordAll calls).selection =
        (direct settings table calls).selection ∧
    ((start settings table).recordAll calls).statement =
        (direct settings table calls).statement ∧
    (∀ function column,
      ((start settings table).recordAll calls).aggregateStatement
          function column =
        (direct settings table calls).aggregateStatement function column) ∧
    ((start settings table).recordAll calls).nesting =
        (direct settings table calls).nesting ∧
    (settings.qualifyColumns = true → ∃ owner,
      Ident.parse (SelectCall.lastTable table calls) = .ok owner ∧
      ((start settings table).recordAll calls).selection.OwnedBy
        settings.functions owner calls ∧
      (∀ statement,
        ((start settings table).recordAll calls).statement = .ok statement →
          ∃ rest, statement.sql = "SELECT " ++
            ((start settings table).recordAll calls).selection.distinctText ++
            ((start settings table).recordAll calls).selection.columnsText ++
            " FROM " ++ owner.sql ++ rest) ∧
      ∀ function column statement,
        ((start settings table).recordAll calls).aggregateStatement
            function column = .ok statement →
          ∃ aggregate given target rest,
            Aggregate.parse function = .ok aggregate ∧
            Column.parseAggregateTarget (.asGiven settings.functions) none
              column = .ok given ∧
            aggregate.target (given.ownedBy (some owner)) = .ok target ∧
            statement.sql = "SELECT " ++ aggregate.sql target ++
              " FROM " ++ owner.sql ++ rest) := by
  rcases recordAll_of_accepted h with ⟨_, _, hdirect, _⟩
  have hsame : (start settings table).recordAll calls =
      direct settings table calls := hdirect
  refine ⟨congrArg selection hsame, congrArg statement hsame,
    fun function column =>
      congrArg (fun builder : SelectBuilder =>
        builder.aggregateStatement function column) hsame,
    congrArg nesting hsame, fun hqualify => ?_⟩
  rcases ownedBy_of_accepted hqualify h with ⟨owner, howner, howned⟩
  refine ⟨owner, howner, howned, ?_, ?_⟩
  · exact fun statement => sql_statement howned.table
  · intro function column statement hstatement
    rcases sql_aggregateStatement howned.table hstatement with
      ⟨aggregate, target, text, rest, haggregate, hcolumn, htarget, hsql⟩
    have hsettings : ((start settings table).recordAll calls).settings =
        .qualifying settings.functions := by
      rw [recordAll_eq]
      exact settings.eq_qualifying hqualify
    rw [hsettings, Column.parseAggregateTarget_qualifying _ _ none,
      map_eq_ok_iff] at hcolumn
    rcases hcolumn with ⟨given, hgiven, rfl⟩
    exact ⟨aggregate, given, text, rest, haggregate, hgiven, htarget, hsql⟩

/-- The table is changed twice before anything is recorded that uses it. -/
theorem table_changes_harmless_of_two_changes :
    ((start .standard "a").recordAll
      [.distinct, .setTable "b", .limit 3, .setTable "c.d", .select ["x"],
        .joinAs .left "e" "k" "l", .filter (.filter .and "m" "eq" "1"),
        .orderBy ["-y"]]).recording.failure = none ∧
    ((start .standard "a").recordAll
      [.distinct, .setTable "b", .limit 3, .setTable "c.d", .select ["x"],
        .joinAs .left "e" "k" "l", .filter (.filter .and "m" "eq" "1"),
        .orderBy ["-y"]]).statement =
      ((start .standard "c.d").recordAll
        [.distinct, .limit 3, .select ["x"], .joinAs .left "e" "k" "l",
          .filter (.filter .and "m" "eq" "1"), .orderBy ["-y"]]).statement ∧
    ∃ owner, Ident.parse "c.d" = .ok owner ∧
      ((start .standard "a").recordAll
        [.distinct, .setTable "b", .limit 3, .setTable "c.d", .select ["x"],
          .joinAs .left "e" "k" "l", .filter (.filter .and "m" "eq" "1"),
          .orderBy ["-y"]]).selection.OwnedBy .builtin owner
        [.distinct, .setTable "b", .limit 3, .setTable "c.d", .select ["x"],
          .joinAs .left "e" "k" "l", .filter (.filter .and "m" "eq" "1"),
          .orderBy ["-y"]] := by
  generalize hcalls : [SelectCall.distinct, _, _, _, _, _, _, _] = calls
  generalize hothers : [SelectCall.distinct, _, _, _, _, _] = others
  have hlast : SelectCall.lastTable "a" calls = "c.d" := by
    rw [← hcalls]
    rfl
  have hkept : SelectCall.withoutTables calls = others := by
    rw [← hcalls, ← hothers]
    rfl
  have hnone : ((start .standard "a").recordAll calls).recording.failure =
      none := by
    rw [← hcalls]
    cbv
  have h := table_changes_harmless .standard "a" calls hnone
  rcases h.2.2.2.2 rfl with ⟨owner, howner, howned, _⟩
  rw [hlast] at howner
  have hstatement := h.2.1
  rw [direct, hlast, hkept] at hstatement
  exact ⟨hnone, hstatement, owner, howner, howned⟩

end SelectBuilder
end SqlAssembler
