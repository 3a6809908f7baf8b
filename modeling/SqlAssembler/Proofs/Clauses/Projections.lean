import SqlAssembler.Proofs.Clauses.Basic
import SqlAssembler.Proofs.Grammar.Names
import SqlAssembler.Proofs.Rows.Placements

/-!
# Names of recorded projections

The result keys of a selection differ from each other, and each one is the name
that the SQL of its projection gives it. So nesting looks for a flat key exactly
where the database puts the value of the extraction, and takes no other known
column for it. This holds after any calls, whether or not some were refused.
-/

namespace SqlAssembler

open Recording

/-!
## What gets into the columns
-/

namespace Selection

variable {settings : Settings}

theorem projectInto_eq_ok {raw : String} {table : Option Ident}
    {columns after : List Column}
    (h : projectInto settings raw table columns = .ok after) :
    ∃ column, Column.parseProjection settings table raw = .ok column ∧
      after = columns ++ [column] := by
  have hproject : project settings raw { empty with table, columns } =
      .ok { empty with table, columns := after } := by
    rw [project_eq]
    exact congrArg (Except.map fun columns =>
      { empty with table, columns }) h
  rcases project_eq_ok hproject with ⟨column, hcolumn, _, hafter⟩
  exact ⟨column, hcolumn, congrArg Selection.columns hafter⟩

theorem columns_setTable {name : String} {selection after : Selection}
    (h : setTable name selection = .ok after) :
    after.columns = selection.columns := by
  rw [setTable] at h
  split at h
  · cases h
  · rcases map_eq_ok_iff.mp h with ⟨table, _, rfl⟩
    rfl

end Selection

namespace SelectBuilder

theorem columns_record (builder : SelectBuilder) (call : SelectCall) :
    (builder.record call).selection.columns =
      recorded builder.selection.columns
        (Clause.inner builder.selection
          (call.projections.map (Selection.projectInto builder.settings))) := by
  rw [selection, record, parts_attemptAll]
  cases htable : call.setsTable with
  | false =>
      rw [Selection.recorded_call htable, Selection.extended_single]
      rfl
  | true =>
      cases call with
      | setTable name =>
          rcases parts_attempt (Recording.start builder.recording.parts)
            (Selection.setTable name) with hsame | hafter
          · exact congrArg Selection.columns hsame
          · exact Selection.columns_setTable hafter
      | _ => cases htable

theorem columns_keep {P : Column → Prop} {settings : Settings}
    (hprojection : ∀ owner raw column,
      Column.parseProjection settings owner raw = .ok column → P column)
    (table : String) (calls : List SelectCall) :
    ∀ column ∈ ((start settings table).recordAll calls).selection.columns,
      P column := by
  have hcalls : ∀ builder : SelectBuilder, builder.settings = settings →
      (∀ column ∈ builder.selection.columns, P column) →
        ∀ column ∈ (builder.recordAll calls).selection.columns, P column := by
    induction calls with
    | nil => exact fun builder _ hcolumns => hcolumns
    | cons call rest ih =>
        intro builder hsettings hcolumns
        refine ih (builder.record call) hsettings ?_
        rw [columns_record]
        refine attemptAll_keeps
          (P := fun columns => ∀ column ∈ columns, P column) hcolumns ?_
        intro edit hedit columns after hbefore hafter
        rcases List.mem_map.mp hedit with ⟨into, hinto, rfl⟩
        rcases List.mem_map.mp hinto with ⟨raw, _, rfl⟩
        rcases Selection.projectInto_eq_ok hafter with ⟨column, hcolumn, rfl⟩
        rw [hsettings] at hcolumn
        exact forall_mem_concat hbefore (hprojection _ raw column hcolumn)
  refine hcalls (start settings table) rfl ?_
  rcases parts_start settings table with ⟨owner, hstart⟩
  rw [selection, hstart]
  exact fun column hcolumn => absurd hcolumn List.not_mem_nil

theorem isPlainName_of_ownLabel {settings : Settings} {table label : String}
    {calls : List SelectCall} {column : Column}
    (hcolumn : column ∈
      ((start settings table).recordAll calls).selection.columns)
    (hlabel : column.ownLabel = some label) :
    Text.isPlainName label.toList = true := by
  refine columns_keep
    (P := fun column => ∀ label, column.ownLabel = some label →
      Text.isPlainName label.toList = true)
    ?_ table calls column hcolumn label hlabel
  intro owner raw column hcolumn label hlabel
  exact Column.isPlainName_of_parseProjection hcolumn hlabel

end SelectBuilder

/-!
## Keys and names
-/

structure Selection.KeysAgree (selection : Selection) (nesting : Nesting) :
    Prop where
  distinct : (selection.columns.filterMap Column.resultKey).Nodup
  /-- The SQL gives a column its key as its name, and no other name. -/
  named : ∀ column ∈ selection.columns, ∀ key, column.resultKey = some key →
    ∀ name, Column.Names column.projectionSql name ↔ name = key
  /-- A flat key is the label that the SQL gives to its extraction, and it is
  the key of no other column. -/
  flat : ∀ placement ∈ nesting.placements, ∃ before column after,
    selection.columns = before ++ column :: after ∧
    (∃ base, column = .json base placement.path none ∧
      base.name = placement.column) ∧
    (∃ part, column.projectionSql =
        column.sql ++ " AS " ++ Column.labelSql placement.flat ∧
      Ident.parse (Column.labelSql placement.flat) = .ok ⟨[part]⟩ ∧
      part.name = placement.flat) ∧
    ∀ other ∈ before ++ after, other.resultKey ≠ some placement.flat

namespace SelectBuilder

/-- After any calls, the columns of a selection have different keys, and each
key is the name that the SQL gives its column. -/
theorem keysAgree_recordAll (settings : Settings) (table : String)
    (calls : List SelectCall) :
    ((start settings table).recordAll calls).selection.KeysAgree
      ((start settings table).recordAll calls).nesting := by
  have hparts : Selection.WellFormed settings.functions (fun _ => True)
      ((start settings table).recordAll calls).selection :=
    parts_wellFormed fun _ _ => trivial
  refine ⟨hparts.keys, ?_, ?_⟩
  · intro column hcolumn key hkey name
    have hnames := Column.names_projectionSql (hparts.columns column hcolumn)
      (fun _ => isPlainName_of_ownLabel hcolumn) hkey
    constructor
    · exact fun hname => hname.unique hnames
    · rintro rfl
      exact hnames
  · intro placement hplacement
    rcases List.mem_filterMap.mp hplacement with ⟨column, hcolumn, hplaced⟩
    rcases Nesting.placement?_eq_some hplaced with
      ⟨base, rfl, hbase, hflat, hkey⟩
    rcases Column.readable_of_writtenLabel (hparts.columns _ hcolumn)
      (fun _ => isPlainName_of_ownLabel hcolumn) hkey with ⟨hne, hnul⟩
    rcases Column.parse_labelSql hne hnul with ⟨part, hpart, hname⟩
    rcases List.append_of_mem hcolumn with ⟨before, after, hsplit⟩
    have hkeys := hparts.keys
    rw [hsplit] at hkeys
    refine ⟨before, .json base placement.path none, after, hsplit,
      ⟨base, rfl, hbase.symm⟩, ⟨part, ?_, hpart, hname⟩,
      Column.resultKey_ne_of_nodup hkey hkeys⟩
    rw [hflat]
    rfl

/-- A label, an extraction, and two projections that are refused. -/
example :
    let selection := ((start .standard "t").recordAll
      [.select ["c AS d", "a->b", "e->b AS a_b", "d"]]).selection
    selection.columns.map Column.projectionSql =
        ["t.c AS d", "t.a->>'$.b' AS a_b"] ∧
      selection.columns.map Column.resultKey = [some "d", some "a_b"] ∧
      (Nesting.ofColumns selection.columns).placements =
        [⟨"a_b", "a", ["b"]⟩] := by
  decide +kernel

end SelectBuilder
end SqlAssembler
