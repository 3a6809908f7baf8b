import SqlAssembler.Proofs.Scripts.Written
import SqlAssembler.Proofs.Tables.Changes
import SqlAssembler.QueryFile.Calls

/-!
# Conditions of query files

The statement of a query file holds, in the order of the entries, the condition
that each entry asks for, and nothing else in it binds a value.
-/

namespace SqlAssembler

open QueryFile

def FilterEntry.asked? (settings : Settings) (owner : Ident)
    (entry : FilterEntry) : Option (Except Error Fragment) :=
  (conditionCall entry).toOption.bind
    (FilterCall.condition? settings (some owner))

/-- The statement writes the fragment where its entry stands, between the
conditions of the first entries and those of the rest. -/
def Statement.WritesBetween (statement : Statement) (settings : Settings)
    (owner : Ident) (first rest : List FilterEntry) (fragment : Fragment) :
    Prop :=
  ∃ earlier later : List Fragment, ∃ before after : Fragment,
    first.filterMap (FilterEntry.asked? settings owner) =
      earlier.map Except.ok ∧
    rest.filterMap (FilterEntry.asked? settings owner) =
      later.map Except.ok ∧
    statement = Fragment.statement (before ++ fragment ++ after) ∧
    before.params = earlier.flatMap Fragment.params ∧
    after.params = later.flatMap Fragment.params

/-!
## Fragments
-/

namespace Selection

variable {selection : Selection} {fragment : Fragment}

def Frames (selection : Selection) (fragment : Fragment) : Prop :=
  ∃ source head tail, selection.source = .ok source ∧
    fragment = .text head :: source ++ [.text tail]

theorem frames_rows (h : selection.rows = .ok fragment) :
    selection.Frames fragment := by
  rcases map_eq_ok_iff.mp h with ⟨source, hsource, hfragment⟩
  exact ⟨source, _, _, hsource, hfragment⟩

theorem frames_aggregated {aggregate : Aggregate} {column : Column}
    (h : selection.aggregated aggregate column = .ok fragment) :
    selection.Frames fragment := by
  rw [aggregated] at h
  split at h
  · cases h
  · rcases map_eq_ok_iff.mp h with ⟨source, hsource, hfragment⟩
    exact ⟨source, _, _, hsource, hfragment⟩

theorem Frames.exists_conditions (h : selection.Frames fragment) :
    ∃ before after : Fragment,
      fragment = before ++ selection.conditions.nodes.flatMap
        Conditions.nodePieces ++ after ∧
      before.params = [] ∧ after.params = [] := by
  rcases h with ⟨source, head, tail, hsource, rfl⟩
  rcases source_eq_ok_iff.mp hsource with
    ⟨table, conditions, _, hrender, rfl⟩
  have hjoins : Fragment.params
      (selection.joins.map fun join => Piece.text join.sql) = [] := by
    simp [Fragment.params, List.flatMap_map]
  rcases Conditions.render_eq_ok_iff.mp hrender with ⟨_, rfl⟩
  split
  · rename_i hempty
    refine ⟨.text head :: .text (" FROM " ++ table.sql) ::
      selection.joins.map fun join => .text join.sql,
      [.text selection.groupText, .text tail], ?_, ?_, rfl⟩
    · rw [List.isEmpty_iff.mp hempty]
      simp
    · simp [hjoins]
  · refine ⟨.text head :: .text (" FROM " ++ table.sql) ::
      ((selection.joins.map fun join => .text join.sql) ++ [.text " WHERE "]),
      [.text selection.groupText, .text tail], ?_, ?_, rfl⟩
    · simp
    · simp [hjoins]

end Selection

namespace Conditions

theorem params_nodes (nodes : List Node) :
    Fragment.params (nodes.flatMap nodePieces) =
      (nodes.filterMap Node.fragment?).flatMap Fragment.params := by
  induction nodes with
  | nil => rfl
  | cons node rest ih =>
      rw [List.flatMap_cons, Fragment.params_append, ih, params_nodePieces]
      cases node <;> rfl

def HoldBetween (nodes : List Node) (fragment : Fragment)
    (values others : List Param) : Prop :=
  ∃ before after : Fragment,
    nodes.flatMap nodePieces = before ++ fragment ++ after ∧
    before.params = values ∧ after.params = others

theorem HoldBetween.cons {nodes : List Node} {fragment : Fragment}
    {values others : List Param} (h : HoldBetween nodes fragment values others)
    (node : Node) :
    HoldBetween (node :: nodes) fragment (nodeParams node ++ values)
      others := by
  rcases h with ⟨before, after, hpieces, hbefore, hafter⟩
  refine ⟨nodePieces node ++ before, after, ?_, ?_, hafter⟩
  · rw [List.flatMap_cons, hpieces, List.append_assoc, List.append_assoc,
      List.append_assoc]
  · rw [Fragment.params_append, params_nodePieces, hbefore]

theorem holdBetween_of_fragments {nodes : List Node}
    {earlier later : List Fragment} {fragment : Fragment}
    (h : nodes.filterMap Node.fragment? = earlier ++ fragment :: later) :
    HoldBetween nodes fragment (earlier.flatMap Fragment.params)
      (later.flatMap Fragment.params) := by
  induction nodes generalizing earlier with
  | nil => simp at h
  | cons node rest ih =>
      cases node with
      | opening connector => exact (ih h).cons (.opening connector)
      | closing => exact (ih h).cons .closing
      | condition connector other =>
          cases earlier with
          | nil =>
              rcases List.cons.inj h with ⟨rfl, hlater⟩
              refine ⟨connectorPieces connector, rest.flatMap nodePieces, rfl,
                params_connectorPieces connector, ?_⟩
              rw [params_nodes, ← hlater]
          | cons first earlier =>
              rcases List.cons.inj h with ⟨rfl, hrest⟩
              exact (ih hrest).cons (.condition connector other)

end Conditions

/-!
## Calls
-/

theorem SelectBuilder.failure_eq_none_of_aggregateStatement
    {builder : SelectBuilder} {function raw : String} {statement : Statement}
    (h : builder.aggregateStatement function raw = .ok statement) :
    builder.recording.failure = none := by
  rcases bind_eq_ok_iff.mp h with ⟨parts, hchecked, _⟩
  exact (Recording.checked_eq_ok_iff.mp hchecked).1

namespace QueryFile

variable {file : QueryFile} {settings : Settings}

theorem exists_of_mapM_ok {entries : List FilterEntry} {calls : List FilterCall}
    (h : entries.mapM conditionCall = .ok calls) {entry : FilterEntry}
    (hentry : entry ∈ entries) : ∃ call, conditionCall entry = .ok call := by
  have hmem : conditionCall entry ∈ calls.map Except.ok := by
    rw [← mapM_eq_ok_iff.mp h]
    exact List.mem_map_of_mem hentry
  rcases List.mem_map.mp hmem with ⟨call, _, hcall⟩
  exact ⟨call, hcall.symm⟩

theorem filterMap_asked? {entries : List FilterEntry} {calls : List FilterCall}
    (h : entries.mapM conditionCall = .ok calls) (owner : Ident) :
    entries.filterMap (FilterEntry.asked? settings owner) =
      calls.filterMap (FilterCall.condition? settings (some owner)) := by
  have hsame := congrArg (List.filterMap fun result =>
    result.toOption.bind (FilterCall.condition? settings (some owner)))
    (mapM_eq_ok_iff.mp h)
  rw [List.filterMap_map, List.filterMap_map] at hsame
  exact hsame

theorem calls_eq_ok {calls : List SelectCall} (h : file.calls = .ok calls) :
    (∀ table, SelectCall.lastTable table calls = table) ∧
      file.conditions.mapM conditionCall =
        .ok (calls.flatMap SelectCall.filters) := by
  rcases bind_eq_ok_iff.mp h with ⟨conditions, hconditions, hpure⟩
  cases hpure
  have hdistinct :
      (if file.distinct then [SelectCall.distinct] else []).filterMap
        SelectCall.tableName? = [] ∧
      (if file.distinct then [SelectCall.distinct] else []).flatMap
        SelectCall.filters = [] := by
    cases file.distinct <;> exact ⟨rfl, rfl⟩
  constructor
  · intro table
    rw [SelectCall.lastTable]
    simp only [List.filterMap_append, List.filterMap_map, hdistinct.1]
    simp [Function.comp_def, -List.getLast?_filterMap]
    rfl
  · have hnone : ∀ {ι : Type} (items : List ι),
        (items.flatMap fun _ => ([] : List FilterCall)) = [] := by
      intro ι items
      rw [List.flatMap_eq_nil_iff]
      exact fun _ _ => rfl
    rw [hconditions]
    simp only [List.flatMap_append, List.flatMap_map, hdistinct.2]
    simp [hnone]

theorem statement_eq_ok {aggregate : Option (String × String)}
    {statement : Statement}
    (h : file.statement settings aggregate = .ok statement) :
    ∃ calls fragment, file.calls = .ok calls ∧
      ((SelectBuilder.start settings file.table).recordAll
        calls).recording.failure = none ∧
      ((SelectBuilder.start settings file.table).recordAll
        calls).selection.Frames fragment ∧
      statement = fragment.statement := by
  rcases bind_eq_ok_iff.mp h with ⟨builder, hbuilder, hbuilt⟩
  rcases bind_eq_ok_iff.mp hbuilder with ⟨calls, hcalls, hpure⟩
  cases hpure
  refine ⟨calls, ?_⟩
  cases aggregate with
  | none =>
      have hrows := mapError_eq_ok_iff.mp hbuilt
      rcases SelectBuilder.statement_eq_ok_iff.mp hrows with
        ⟨hnone, fragment, hrows, hstatement⟩
      exact ⟨fragment, hcalls, hnone, Selection.frames_rows hrows, hstatement⟩
  | some target =>
      have haggregated := mapError_eq_ok_iff.mp hbuilt
      rcases SelectBuilder.aggregateStatement_eq_ok haggregated with
        ⟨_, _, fragment, _, _, hfragment, hstatement⟩
      exact ⟨fragment, hcalls,
        SelectBuilder.failure_eq_none_of_aggregateStatement haggregated,
        Selection.frames_aggregated hfragment, hstatement⟩

theorem writesBetween {aggregate : Option (String × String)}
    {statement : Statement}
    (h : file.statement settings aggregate = .ok statement)
    {first rest : List FilterEntry} {entry : FilterEntry}
    (hentry : file.conditions = first ++ entry :: rest) :
    ∃ owner call, Ident.parse file.table = .ok owner ∧
      conditionCall entry = .ok call ∧
      ∀ asked, call.condition? settings (some owner) = some asked →
        ∃ fragment, asked = .ok fragment ∧
          statement.WritesBetween settings owner first rest fragment := by
  rcases statement_eq_ok h with ⟨calls, whole, hcalls, hnone, hframes, rfl⟩
  rcases calls_eq_ok hcalls with ⟨hlast, hconditions⟩
  rcases SelectBuilder.conditions_of_accepted hnone with
    ⟨owner, howner, hrecorded⟩
  rw [hlast] at howner
  have hmem : entry ∈ file.conditions := by
    rw [hentry]
    simp
  rcases exists_of_mapM_ok hconditions hmem with ⟨call, hcall⟩
  refine ⟨owner, call, howner, hcall, ?_⟩
  intro asked hasked
  have hentryAsked : entry.asked? settings owner = some asked := by
    rw [FilterEntry.asked?, hcall]
    exact hasked
  rw [← filterMap_asked? hconditions, hentry, List.filterMap_append,
    List.filterMap_cons, hentryAsked, eq_comm, List.map_eq_append_iff]
    at hrecorded
  rcases hrecorded with ⟨earlier, others, hfragments, hearlier, hothers⟩
  rcases List.map_eq_cons_iff.mp hothers with
    ⟨fragment, later, rfl, rfl, hlater⟩
  rcases hframes.exists_conditions with
    ⟨front, back, hwhole, hfront, hback⟩
  rcases Conditions.holdBetween_of_fragments hfragments with
    ⟨before, after, hpieces, hbefore, hafter⟩
  refine ⟨fragment, rfl, earlier, later, front ++ before, after ++ back,
    hearlier.symm, hlater.symm, ?_, ?_, ?_⟩
  · rw [hwhole, hpieces]
    simp only [List.append_assoc]
  · rw [Fragment.params_append, hfront, hbefore]
    rfl
  · rw [Fragment.params_append, hafter, hback, List.append_nil]

end QueryFile
end SqlAssembler
