import SqlAssembler.Proofs.Results
import SqlAssembler.Proofs.Scripts.Basic

/-!
# What scripts record

Every part that a script records was accepted by a reader: identifiers and
columns are well formed, and each condition is what the filter translation gave
for a well-formed column. The texts of calls among the parts are embedded calls
of the script. Each recording call keeps this, so it holds after any number of
them, refused ones included.
-/

namespace SqlAssembler

/-!
## Well-formed parts

In all definitions, `calls` holds of the call texts that may be embedded.
-/

def Filter.Gives (functions : FunctionNames) (calls : String → Prop)
    (fragment : Fragment) : Prop :=
  ∃ column operator value,
    Column.WellFormed (fun _ => False) column ∧
      condition functions column.sql operator value = .ok fragment ∧
      (functions.embeds value = .ok true → calls value)

def Conditions.WellFormed (functions : FunctionNames) (calls : String → Prop)
    (conditions : Conditions) : Prop :=
  ∀ connector fragment,
    .condition connector fragment ∈ conditions.nodes →
      Filter.Gives functions calls fragment

structure Join.WellFormed (join : Join) : Prop where
  table : join.table.WellFormed
  left : join.left.WellFormed (fun _ => False)
  right : join.right.WellFormed (fun _ => False)

def AssignedValue.WellFormed (calls : String → Prop) : AssignedValue → Prop
  | bound _ => True
  | call text => calls text

structure Assignment.WellFormed (calls : String → Prop)
    (assignment : Assignment) : Prop where
  column : assignment.column.WellFormed
  value : assignment.value.WellFormed calls

structure Selection.WellFormed (functions : FunctionNames)
    (calls : String → Prop) (selection : Selection) : Prop where
  table : ∀ table ∈ selection.table, table.WellFormed
  joins : ∀ join ∈ selection.joins, join.WellFormed
  columns : ∀ column ∈ selection.columns, column.WellFormed calls
  conditions : selection.conditions.WellFormed functions calls
  groupBy : ∀ column ∈ selection.groupBy, column.WellFormed (fun _ => False)
  orderBy : ∀ key ∈ selection.orderBy, key.column.WellFormed (fun _ => False)
  keys : (selection.columns.filterMap Column.resultKey).Nodup

structure Insertion.WellFormed (calls : String → Prop)
    (insertion : Insertion) : Prop where
  table : ∀ table ∈ insertion.table, table.WellFormed
  assignments : ∀ assignment ∈ insertion.assignments,
    assignment.WellFormed calls

structure Update.WellFormed (functions : FunctionNames)
    (calls : String → Prop) (update : Update) : Prop where
  table : ∀ table ∈ update.table, table.WellFormed
  assignments : ∀ assignment ∈ update.assignments, assignment.WellFormed calls
  conditions : update.conditions.WellFormed functions calls

structure Deletion.WellFormed (functions : FunctionNames)
    (calls : String → Prop) (deletion : Deletion) : Prop where
  table : ∀ table ∈ deletion.table, table.WellFormed
  conditions : deletion.conditions.WellFormed functions calls

theorem forall_mem_concat {α : Type} {p : α → Prop} {items : List α} {item : α}
    (hitems : ∀ other ∈ items, p other) (hitem : p item) :
    ∀ other ∈ items ++ [item], p other := by
  intro other hmem
  rcases List.mem_append.mp hmem with hold | hnew
  · exact hitems other hold
  · rw [List.mem_singleton.mp hnew]
    exact hitem

variable {settings : Settings} {functions : FunctionNames}
  {calls : String → Prop}

/-!
## Filters
-/

theorem Conditions.wellFormed_empty :
    Conditions.empty.WellFormed functions calls := by
  intro connector fragment hmem
  cases hmem

theorem Conditions.WellFormed.push {conditions : Conditions} {node : Node}
    (h : conditions.WellFormed functions calls)
    (hnode : ∀ connector fragment, node = .condition connector fragment →
      Filter.Gives functions calls fragment) :
    (conditions.push node).WellFormed functions calls := by
  intro connector fragment hmem
  rcases List.mem_append.mp hmem with hold | hnew
  · exact h connector fragment hold
  · exact hnode connector fragment (List.mem_singleton.mp hnew).symm

theorem FilterCall.addFilter_wellFormed {table : Option Ident}
    {conditions after : Conditions} {connector : Connector}
    {column value : String} {operator : Operator}
    (htable : ∀ owner ∈ table, owner.WellFormed)
    (h : conditions.WellFormed settings.functions calls)
    (hvalue : ∀ text ∈ settings.functions.embedded value, calls text)
    (hadd : addFilter settings table conditions connector column operator
      value = .ok after) :
    after.WellFormed settings.functions calls := by
  rcases bind_eq_ok_iff.mp hadd with ⟨parsed, hparsed, hrest⟩
  rcases bind_eq_ok_iff.mp hrest with ⟨fragment, hfragment, hafter⟩
  cases hafter
  apply h.push
  intro _ other hother
  cases hother
  exact ⟨parsed, operator, value, Column.wellFormed_of_parse htable hparsed,
    hfragment, fun hembeds => hvalue value (FunctionNames.mem_embedded hembeds)⟩

theorem FilterCall.apply_wellFormed {table : Option Ident}
    {conditions after : Conditions} {call : FilterCall}
    (htable : ∀ owner ∈ table, owner.WellFormed)
    (h : conditions.WellFormed settings.functions calls)
    (hcall : ∀ text ∈ call.embedded settings.functions, calls text)
    (happly : call.apply settings table conditions = .ok after) :
    after.WellFormed settings.functions calls := by
  cases call with
  | filter connector column operator value =>
      rcases bind_eq_ok_iff.mp happly with ⟨parsed, _, hadd⟩
      exact addFilter_wellFormed htable h hcall hadd
  | filterBy column operator value =>
      exact addFilter_wellFormed htable h hcall happly
  | openGroup connector =>
      cases happly
      exact h.push (by simp)
  | closeGroup =>
      simp only [apply, Conditions.closeGroup] at happly
      split at happly
      · cases happly
      · split at happly
        · cases happly
        · cases happly
          exact h.push (by simp)

/-!
## Assignments
-/

theorem AssignCall.assign_wellFormed {assignments after : List Assignment}
    {column : String} {value : AssignedValue}
    (h : ∀ assignment ∈ assignments, assignment.WellFormed calls)
    (hassign : assign assignments column value = .ok after)
    (hvalue : value.WellFormed calls) :
    ∀ assignment ∈ after, assignment.WellFormed calls := by
  rcases map_eq_ok_iff.mp hassign with ⟨ident, hident, rfl⟩
  exact forall_mem_concat h ⟨Ident.wellFormed_of_parse hident, hvalue⟩

theorem AssignCall.apply_wellFormed {assignments after : List Assignment}
    {call : AssignCall}
    (h : ∀ assignment ∈ assignments, assignment.WellFormed calls)
    (hcall : ∀ text ∈ call.embedded settings.functions, calls text)
    (happly : call.apply settings assignments = .ok after) :
    ∀ assignment ∈ after, assignment.WellFormed calls := by
  cases call with
  | set column value => exact assign_wellFormed h happly trivial
  | setOptional column value =>
      cases value with
      | none =>
          cases happly
          exact h
      | some value => exact assign_wellFormed h happly trivial
  | setFunction column call =>
      rw [apply] at happly
      split at happly
      · cases happly
      · cases happly
      · rename_i hembeds
        exact assign_wellFormed h happly
          (hcall call (FunctionNames.mem_embedded hembeds))

/-!
## Builders

For each kind of builder, an edit that goes through keeps well-formed parts, and
with it a whole sequence of calls does.
-/

theorem Join.wellFormed_of_parse {table : Option Ident} {kind : JoinKind}
    {name left right : String} {join : Join}
    (htable : ∀ owner ∈ table, owner.WellFormed)
    (h : parse settings table kind name left right = .ok join) :
    join.WellFormed := by
  rcases bind_eq_ok_iff.mp h with ⟨joined, hjoined, hrest⟩
  rcases bind_eq_ok_iff.mp hrest with ⟨leftColumn, hleft, hrest⟩
  rcases bind_eq_ok_iff.mp hrest with ⟨rightColumn, hright, hjoin⟩
  cases hjoin
  have htables : ∀ owner ∈ some joined, owner.WellFormed := by
    intro owner howner
    cases howner
    exact Ident.wellFormed_of_parse hjoined
  exact ⟨Ident.wellFormed_of_parse hjoined,
    Column.wellFormed_of_parse htable hleft,
    Column.wellFormed_of_parse htables hright⟩

theorem SortKey.wellFormed_of_parse {table : Option Ident} {raw : String}
    {key : SortKey} (htable : ∀ owner ∈ table, owner.WellFormed)
    (h : parse settings table raw = .ok key) :
    key.column.WellFormed (fun _ => False) := by
  rcases hsign : splitSign (Text.trim raw.toList) with ⟨direction, cs⟩
  simp only [parse, hsign] at h
  rcases map_eq_ok_iff.mp h with ⟨column, hcolumn, rfl⟩
  exact Column.wellFormed_of_parse htable hcolumn

namespace Selection

theorem wellFormed_empty : empty.WellFormed functions calls :=
  ⟨by simp [empty], by simp [empty], by simp [empty],
    Conditions.wellFormed_empty, by simp [empty], by simp [empty],
    by simp [empty]⟩

theorem setTable_wellFormed {selection after : Selection} {name : String}
    (h : selection.WellFormed functions calls)
    (hedit : setTable name selection = .ok after) :
    after.WellFormed functions calls := by
  rw [setTable] at hedit
  split at hedit
  · cases hedit
  · rcases map_eq_ok_iff.mp hedit with ⟨table, htable, rfl⟩
    refine { h with table := fun owner howner => ?_ }
    cases howner
    exact Ident.wellFormed_of_parse htable

theorem project_eq_ok {selection after : Selection} {raw : String}
    (h : project settings raw selection = .ok after) :
    ∃ column, Column.parseProjection settings selection.table raw = .ok column ∧
      (∀ key, column.resultKey = some key →
        selection.hasResultKey key = false) ∧
      after = { selection with columns := selection.columns ++ [column] } := by
  rcases bind_eq_ok_iff.mp h with ⟨column, hcolumn, hrest⟩
  refine ⟨column, hcolumn, ?_⟩
  dsimp only at hrest
  split at hrest
  · rename_i hnone
    cases hrest
    refine ⟨fun key hkey => ?_, rfl⟩
    rw [hnone] at hkey
    cases hkey
  · rename_i known hsome
    split at hrest
    · cases hrest
    · rename_i hnew
      cases hrest
      refine ⟨fun key hkey => ?_, rfl⟩
      rw [hsome] at hkey
      cases hkey
      simpa using hnew

theorem project_of_parseProjection {selection : Selection} {raw key : String}
    {column : Column}
    (hcolumn : Column.parseProjection settings selection.table raw = .ok column)
    (hkey : column.resultKey = some key)
    (hnew : selection.hasResultKey key = false) :
    project settings raw selection =
      .ok { selection with columns := selection.columns ++ [column] } := by
  simp only [project, hcolumn, bind, Except.bind, hkey, hnew]
  rfl

theorem nodup_keys_concat {columns : List Column} {column : Column}
    (h : (columns.filterMap Column.resultKey).Nodup)
    (hnew : ∀ key, column.resultKey = some key →
      columns.any (fun other => other.resultKey = some key) = false) :
    ((columns ++ [column]).filterMap Column.resultKey).Nodup := by
  rw [List.filterMap_append]
  cases hkey : column.resultKey with
  | none => simpa [hkey] using h
  | some key =>
      have hfresh : key ∉ columns.filterMap Column.resultKey := by
        intro hmem
        rcases List.mem_filterMap.mp hmem with ⟨other, hother, hsame⟩
        have hall := List.any_eq_false.mp (hnew key hkey) other hother
        exact hall (decide_eq_true hsame)
      have hsingle : [column].filterMap Column.resultKey = [key] := by
        simp [hkey]
      rw [hsingle]
      refine List.nodup_append.mpr ⟨h, by simp, ?_⟩
      rintro other hother known hknown rfl
      rw [List.mem_singleton.mp hknown] at hother
      exact hfresh hother

theorem project_wellFormed {selection after : Selection} {raw : String}
    (h : selection.WellFormed settings.functions calls)
    (hcall : ∀ text, Column.projectedCall? settings raw = some text →
      calls text)
    (hedit : project settings raw selection = .ok after) :
    after.WellFormed settings.functions calls := by
  rcases project_eq_ok hedit with ⟨column, hcolumn, hkey, rfl⟩
  refine { h with
    columns := forall_mem_concat h.columns ?_
    keys := nodup_keys_concat h.keys hkey }
  exact (Column.wellFormed_of_parseProjection h.table hcolumn).mono hcall

theorem addJoin_wellFormed {selection after : Selection} {kind : JoinKind}
    {table left right : String} (h : selection.WellFormed functions calls)
    (hedit : addJoin settings kind table left right selection = .ok after) :
    after.WellFormed functions calls := by
  rcases map_eq_ok_iff.mp hedit with ⟨join, hjoin, rfl⟩
  exact { h with
    joins := forall_mem_concat h.joins (Join.wellFormed_of_parse h.table hjoin) }

theorem addFilter_wellFormed {selection after : Selection} {call : FilterCall}
    (h : selection.WellFormed settings.functions calls)
    (hcall : ∀ text ∈ call.embedded settings.functions, calls text)
    (hedit : addFilter settings call selection = .ok after) :
    after.WellFormed settings.functions calls := by
  rcases map_eq_ok_iff.mp hedit with ⟨conditions, happly, rfl⟩
  exact { h with
    conditions :=
      FilterCall.apply_wellFormed h.table h.conditions hcall happly }

theorem addGroup_wellFormed {selection after : Selection} {raw : String}
    (h : selection.WellFormed functions calls)
    (hedit : addGroup settings raw selection = .ok after) :
    after.WellFormed functions calls := by
  rcases map_eq_ok_iff.mp hedit with ⟨column, hcolumn, rfl⟩
  exact { h with
    groupBy := forall_mem_concat h.groupBy
      (Column.wellFormed_of_parse h.table hcolumn) }

theorem addOrder_wellFormed {selection after : Selection} {raw : String}
    (h : selection.WellFormed functions calls)
    (hedit : addOrder settings raw selection = .ok after) :
    after.WellFormed functions calls := by
  rcases map_eq_ok_iff.mp hedit with ⟨key, hkey, rfl⟩
  exact { h with
    orderBy := forall_mem_concat h.orderBy
      (SortKey.wellFormed_of_parse h.table hkey) }

end Selection

theorem SelectCall.edits_wellFormed {call : SelectCall}
    (hcall : ∀ text ∈ call.embedded settings, calls text) :
    ∀ edit ∈ call.edits settings, ∀ selection after : Selection,
      selection.WellFormed settings.functions calls →
        edit selection = .ok after →
          after.WellFormed settings.functions calls := by
  intro edit hmem selection after h hedit
  cases call with
  | setTable name =>
      cases List.mem_singleton.mp hmem
      exact Selection.setTable_wellFormed h hedit
  | select columns =>
      rcases List.mem_map.mp hmem with ⟨raw, hraw, rfl⟩
      refine Selection.project_wellFormed h (fun text htext => ?_) hedit
      exact hcall text (List.mem_filterMap.mpr ⟨raw, hraw, htext⟩)
  | join kind table left right =>
      cases List.mem_singleton.mp hmem
      rcases bind_eq_ok_iff.mp hedit with ⟨parsed, _, hadd⟩
      exact Selection.addJoin_wellFormed h hadd
  | joinAs kind table left right =>
      cases List.mem_singleton.mp hmem
      exact Selection.addJoin_wellFormed h hedit
  | filter call =>
      cases List.mem_singleton.mp hmem
      exact Selection.addFilter_wellFormed h hcall hedit
  | groupBy columns =>
      rcases List.mem_map.mp hmem with ⟨raw, _, rfl⟩
      exact Selection.addGroup_wellFormed h hedit
  | orderBy entries =>
      rcases List.mem_map.mp hmem with ⟨raw, _, rfl⟩
      exact Selection.addOrder_wellFormed h hedit
  | distinct =>
      cases List.mem_singleton.mp hmem
      cases hedit
      exact { h with }
  | limit count =>
      cases List.mem_singleton.mp hmem
      cases hedit
      exact { h with }
  | offset count =>
      cases List.mem_singleton.mp hmem
      cases hedit
      exact { h with }
  | page number size =>
      cases List.mem_singleton.mp hmem
      cases hedit
      exact { h with }

theorem SelectBuilder.parts_wellFormed {table : String}
    {script : List SelectCall}
    (hcalls : ∀ text ∈ script.flatMap (SelectCall.embedded settings),
      calls text) :
    ((start settings table).recordAll script).recording.parts.WellFormed
      settings.functions calls := by
  rw [recordAll_eq]
  apply Recording.attemptAll_keeps
  · exact Recording.attempt_keeps Selection.wellFormed_empty fun _ hedit =>
      Selection.setTable_wellFormed Selection.wellFormed_empty hedit
  · intro edit hedit
    rcases List.mem_flatMap.mp hedit with ⟨call, hcall, hmem⟩
    refine SelectCall.edits_wellFormed (fun text htext => ?_) edit hmem
    exact hcalls text (List.mem_flatMap.mpr ⟨call, hcall, htext⟩)

/-!
The other three builders record one edit for each call.
-/

theorem Ident.wellFormed_of_map_parse {σ : Type} {name : String}
    {edit : Ident → σ} {after : σ} {P : σ → Prop}
    (h : (parse name).map edit = .ok after)
    (hedit : ∀ table, table.WellFormed → P (edit table)) : P after := by
  rcases map_eq_ok_iff.mp h with ⟨table, htable, rfl⟩
  exact hedit table (wellFormed_of_parse htable)

theorem Ident.wellFormed_of_mem_some {table : Ident} (h : table.WellFormed) :
    ∀ owner ∈ some table, owner.WellFormed := by
  intro owner howner
  cases howner
  exact h

theorem Insertion.wellFormed_empty : WellFormed calls ⟨none, []⟩ :=
  ⟨by simp, by simp⟩

theorem Update.wellFormed_empty :
    WellFormed functions calls ⟨none, [], .empty⟩ :=
  ⟨by simp, by simp, Conditions.wellFormed_empty⟩

theorem Deletion.wellFormed_empty :
    WellFormed functions calls ⟨none, .empty, false⟩ :=
  ⟨by simp, Conditions.wellFormed_empty⟩

theorem InsertBuilder.parts_wellFormed {table : String}
    {script : List AssignCall}
    (hcalls : ∀ text ∈ script.flatMap (AssignCall.embedded settings.functions),
      calls text) :
    ((start settings table).recordAll script).recording.parts.WellFormed
      calls := by
  rw [recordAll_eq]
  apply Recording.attemptAll_keeps
  · apply Recording.attempt_keeps Insertion.wellFormed_empty
    intro after hedit
    exact Ident.wellFormed_of_map_parse hedit fun _ htable =>
      { Insertion.wellFormed_empty with
        table := Ident.wellFormed_of_mem_some htable }
  · intro edit hedit insertion after h hafter
    rcases List.mem_map.mp hedit with ⟨call, hcall, rfl⟩
    rcases map_eq_ok_iff.mp hafter with ⟨assignments, happly, rfl⟩
    refine { h with
      assignments := AssignCall.apply_wellFormed h.assignments ?_ happly }
    intro text htext
    exact hcalls text (List.mem_flatMap.mpr ⟨call, hcall, htext⟩)

theorem UpdateBuilder.parts_wellFormed {table : String}
    {script : List UpdateCall}
    (hcalls : ∀ text ∈ script.flatMap (UpdateCall.embedded settings.functions),
      calls text) :
    ((start settings table).recordAll script).recording.parts.WellFormed
      settings.functions calls := by
  rw [recordAll_eq]
  apply Recording.attemptAll_keeps
  · apply Recording.attempt_keeps Update.wellFormed_empty
    intro after hedit
    exact Ident.wellFormed_of_map_parse hedit fun _ htable =>
      { Update.wellFormed_empty with
        table := Ident.wellFormed_of_mem_some htable }
  · intro edit hedit update after h hafter
    rcases List.mem_map.mp hedit with ⟨call, hcall, rfl⟩
    have hembedded : ∀ text ∈ call.embedded settings.functions, calls text :=
      fun text htext =>
        hcalls text (List.mem_flatMap.mpr ⟨call, hcall, htext⟩)
    cases call with
    | assign call =>
        rcases map_eq_ok_iff.mp hafter with ⟨assignments, happly, rfl⟩
        exact { h with
          assignments :=
            AssignCall.apply_wellFormed h.assignments hembedded happly }
    | filter call =>
        rcases map_eq_ok_iff.mp hafter with ⟨conditions, happly, rfl⟩
        exact { h with
          conditions := FilterCall.apply_wellFormed h.table h.conditions
            hembedded happly }

theorem DeleteBuilder.parts_wellFormed {table : String}
    {script : List DeleteCall}
    (hcalls : ∀ text ∈ script.flatMap (DeleteCall.embedded settings.functions),
      calls text) :
    ((start settings table).recordAll script).recording.parts.WellFormed
      settings.functions calls := by
  rw [recordAll_eq]
  apply Recording.attemptAll_keeps
  · apply Recording.attempt_keeps Deletion.wellFormed_empty
    intro after hedit
    exact Ident.wellFormed_of_map_parse hedit fun _ htable =>
      { Deletion.wellFormed_empty with
        table := Ident.wellFormed_of_mem_some htable }
  · intro edit hedit deletion after h hafter
    rcases List.mem_map.mp hedit with ⟨call, hcall, rfl⟩
    cases call with
    | allowAllRows allow =>
        cases hafter
        exact { h with }
    | filter call =>
        rcases map_eq_ok_iff.mp hafter with ⟨conditions, happly, rfl⟩
        refine { h with
          conditions :=
            FilterCall.apply_wellFormed h.table h.conditions ?_ happly }
        intro text htext
        exact hcalls text (List.mem_flatMap.mpr ⟨_, hcall, htext⟩)

end SqlAssembler
