import Mathlib
import SqlAssembler.Proofs.Literals.Simulation
import SqlAssembler.Proofs.Markers.Calls
import SqlAssembler.Proofs.Markers.Scripts
import SqlAssembler.Proofs.Scripts.Values

/-!
# Values put in place of their markers

The text that is shown in logs puts each value where its marker stands. It is
the text that the same calls write when they write literals at once, provided
that no embedded call has a backslash between backticks. So the values stand in
the order of their markers, and neither is left over.
-/

namespace SqlAssembler

/-!
## Fragments that write literals
-/

structure Fragment.Writes (written fragment : Fragment) : Prop where
  sql : written.sql = fragment.literalSql
  params : written.params = []

namespace Fragment

theorem writes_nil : Writes [] [] :=
  ⟨rfl, rfl⟩

theorem writes_text (sql : String) : Writes [.text sql] [.text sql] :=
  ⟨rfl, rfl⟩

theorem writes_literalSql (fragment : Fragment) :
    Writes [.text fragment.literalSql] fragment :=
  ⟨by simp [Fragment.sql, Piece.sql], rfl⟩

theorem Writes.append {written fragment more later : Fragment}
    (hfirst : Writes written fragment) (hlater : Writes more later) :
    Writes (written ++ more) (fragment ++ later) := by
  constructor
  · rw [sql_append, literalSql_append, hfirst.sql, hlater.sql]
  · rw [params_append, hfirst.params, hlater.params, List.append_nil]

theorem Writes.cons_text {written fragment : Fragment}
    (h : Writes written fragment) (sql : String) :
    Writes (.text sql :: written) (.text sql :: fragment) :=
  (writes_text sql).append h

theorem writes_flatMap {α β : Type} {written : β → Fragment}
    {fragment : α → Fragment} {g : α → β}
    (h : ∀ item, Writes (written (g item)) (fragment item)) (items : List α) :
    Writes ((items.map g).flatMap written) (items.flatMap fragment) := by
  induction items with
  | nil => exact writes_nil
  | cons item rest ih => exact (h item).append ih

theorem writes_separated {α β : Type} (written : β → Fragment)
    (fragment : α → Fragment) {g : α → β}
    (h : ∀ item, Writes (written (g item)) (fragment item))
    (separator : String) (items : List α) :
    Writes (separated separator ((items.map g).map written))
      (separated separator (items.map fragment)) := by
  induction items with
  | nil => exact writes_nil
  | cons item rest ih =>
      cases rest with
      | nil => exact h item
      | cons next others => exact (h item).append (ih.cons_text separator)

theorem writes_texts {α : Type} (items : List α) (sql : α → String) :
    Writes (items.map fun item => .text (sql item))
      (items.map fun item => .text (sql item)) := by
  induction items with
  | nil => exact writes_nil
  | cons item rest ih => exact ih.cons_text (sql item)

end Fragment

/-!
## Parts that hold literals
-/

theorem Conditions.writes_nodePieces (node : Node) :
    Fragment.Writes (nodePieces node.withLiterals) (nodePieces node) := by
  have hconnector : ∀ connector : Option Connector,
      Fragment.Writes (connectorPieces connector)
        (connectorPieces connector) := by
    intro connector
    cases connector with
    | none => exact Fragment.writes_nil
    | some connector => exact Fragment.writes_text _
  cases node with
  | opening connector =>
      exact (hconnector connector).append (Fragment.writes_text "(")
  | closing => exact Fragment.writes_text ")"
  | condition connector fragment =>
      exact (hconnector connector).append (Fragment.writes_literalSql fragment)

theorem Conditions.writes_render {conditions : Conditions}
    {fragment : Fragment} (h : conditions.render = .ok fragment) :
    ∃ written, conditions.withLiterals.render = .ok written ∧
      written.Writes fragment := by
  rcases render_eq_ok_iff.mp h with ⟨hdepth, rfl⟩
  refine ⟨_, render_eq_ok_iff.mpr ⟨by rw [depth_withLiterals, hdepth], rfl⟩,
    ?_⟩
  rw [isEmpty_withLiterals]
  split
  · exact Fragment.writes_nil
  · exact (Fragment.writes_flatMap writes_nodePieces
      conditions.nodes).cons_text " WHERE "

namespace Selection

theorem writes_source {selection : Selection} {fragment : Fragment}
    (h : selection.source = .ok fragment) :
    ∃ written, selection.withLiterals.source = .ok written ∧
      written.Writes fragment := by
  rcases source_eq_ok_iff.mp h with ⟨table, conditions, htable, hrender, rfl⟩
  rcases Conditions.writes_render hrender with ⟨written, hwritten, hwrites⟩
  have hjoins := Fragment.writes_texts selection.joins Join.sql
  exact ⟨_, source_eq_ok_iff.mpr ⟨table, written, htable, hwritten, rfl⟩,
    ((hjoins.append hwrites).append
      (Fragment.writes_text selection.groupText)).cons_text _⟩

theorem writes_rows {selection : Selection} {fragment : Fragment}
    (h : selection.rows = .ok fragment) :
    ∃ written, selection.withLiterals.rows = .ok written ∧
      written.Writes fragment := by
  rcases map_eq_ok_iff.mp h with ⟨source, hsource, rfl⟩
  rcases writes_source hsource with ⟨written, hwritten, hwrites⟩
  exact ⟨_, map_eq_ok_iff.mpr ⟨written, hwritten, rfl⟩,
    (hwrites.append (Fragment.writes_text _)).cons_text _⟩

theorem writes_aggregated {selection : Selection} {aggregate : Aggregate}
    {column : Column} {fragment : Fragment}
    (h : selection.aggregated aggregate column = .ok fragment) :
    ∃ written, selection.withLiterals.aggregated aggregate column =
        .ok written ∧ written.Writes fragment := by
  rw [aggregated] at h
  rw [aggregated]
  split at h
  · cases h
  · rcases map_eq_ok_iff.mp h with ⟨source, hsource, rfl⟩
    rcases writes_source hsource with ⟨written, hwritten, hwrites⟩
    exact ⟨_, map_eq_ok_iff.mpr ⟨written, hwritten, rfl⟩,
      (hwrites.append (Fragment.writes_text _)).cons_text _⟩

end Selection

theorem AssignedValue.writes_piece (value : AssignedValue) :
    Fragment.Writes [value.withLiteral.piece] [value.piece] := by
  cases value with
  | bound value => exact Fragment.writes_literalSql [.slot value]
  | call text => exact Fragment.writes_text text

theorem Insertion.writes_fragment {insertion : Insertion} {fragment : Fragment}
    (h : insertion.fragment = .ok fragment) :
    ∃ written, insertion.withLiterals.fragment = .ok written ∧
      written.Writes fragment := by
  rcases fragment_eq_ok_iff.mp h with ⟨table, htable, hnonempty, rfl⟩
  have hcolumns : (insertion.withLiterals.assignments.map fun assignment =>
      assignment.column.sql) =
        insertion.assignments.map fun assignment => assignment.column.sql := by
    simp [withLiterals, Assignment.withLiteral]
  have hvalues := Fragment.writes_separated (g := Assignment.withLiteral)
    (fun assignment : Assignment => [assignment.value.piece])
    (fun assignment : Assignment => [assignment.value.piece])
    (fun assignment => assignment.value.writes_piece) ", "
    insertion.assignments
  refine ⟨_, fragment_eq_ok_iff.mpr
    ⟨table, htable, by simpa [withLiterals] using hnonempty, rfl⟩, ?_⟩
  rw [hcolumns]
  exact (hvalues.append (Fragment.writes_text ")")).cons_text _

theorem Update.writes_fragment {update : Update} {fragment : Fragment}
    (h : update.fragment = .ok fragment) :
    ∃ written, update.withLiterals.fragment = .ok written ∧
      written.Writes fragment := by
  rcases fragment_eq_ok_iff.mp h with
    ⟨table, conditions, htable, hnonempty, hrender, rfl⟩
  rcases Conditions.writes_render hrender with ⟨written, hwritten, hwrites⟩
  have hassigned := Fragment.writes_separated (g := Assignment.withLiteral)
    Update.assignmentFragment Update.assignmentFragment
    (fun assignment => assignment.value.writes_piece.cons_text _) ", "
    update.assignments
  exact ⟨_, fragment_eq_ok_iff.mpr ⟨table, written, htable,
      by simpa [withLiterals] using hnonempty, hwritten, rfl⟩,
    (hassigned.append hwrites).cons_text _⟩

theorem Deletion.writes_fragment {deletion : Deletion} {fragment : Fragment}
    (h : deletion.fragment = .ok fragment) :
    ∃ written, deletion.withLiterals.fragment = .ok written ∧
      written.Writes fragment := by
  rcases fragment_eq_ok_iff.mp h with
    ⟨table, restriction, htable, hrestriction, rfl⟩
  have hisEmpty : deletion.withLiterals.conditions.isEmpty =
      deletion.conditions.isEmpty := deletion.conditions.isEmpty_withLiterals
  rcases restriction_eq_ok_iff.mp hrestriction with
    ⟨hempty, rfl⟩ | ⟨hnonempty, hrender⟩
  · refine ⟨_, fragment_eq_ok_iff.mpr ⟨table, _, htable,
      restriction_eq_ok_iff.mpr (.inl ⟨hisEmpty.trans hempty, rfl⟩), rfl⟩, ?_⟩
    apply Fragment.Writes.cons_text
    show Fragment.Writes (if deletion.allRows then _ else _) _
    split
    · exact Fragment.writes_nil
    · exact Fragment.writes_text " WHERE 1=0"
  · rcases Conditions.writes_render hrender with ⟨written, hwritten, hwrites⟩
    exact ⟨_, fragment_eq_ok_iff.mpr ⟨table, written, htable,
      restriction_eq_ok_iff.mpr (.inr ⟨hisEmpty.trans hnonempty, hwritten⟩),
      rfl⟩, hwrites.cons_text _⟩

/-!
## Scripts
-/

namespace Recording

theorem Simulates.checked {σ : Type} {f : σ → σ} {edits others : List (Edit σ)}
    (h : Simulates f edits others) {start : Recording σ} {parts : σ}
    (hstart : f start.parts = start.parts)
    (hchecked : (start.attemptAll edits).checked = .ok parts) :
    (start.attemptAll others).checked = .ok (f parts) := by
  have hmap : start.map f = start := by
    rw [map, hstart]
  rw [← hmap, h, checked_map, hchecked]
  rfl

end Recording

namespace Script

theorem literalStatement_of_fragment {script : Script} {fragment : Fragment}
    (h : script.fragment = .ok fragment) :
    ∃ written : Fragment, script.literalStatement = .ok written.statement ∧
      written.Writes fragment := by
  cases script with
  | select settings table calls =>
      rcases bind_eq_ok_iff.mp h with ⟨selection, hchecked, hrows⟩
      rcases Selection.writes_rows hrows with ⟨written, hwritten, hwrites⟩
      rcases SelectBuilder.parts_start settings table with ⟨owner, hstart⟩
      rw [SelectBuilder.recordAll_eq] at hchecked
      have hliteral := (Recording.simulates_flatMap
        (SelectCall.simulates settings) calls).checked
          (by rw [hstart]; rfl) hchecked
      exact ⟨written, bind_eq_ok_iff.mpr ⟨_, hliteral,
        bind_eq_ok_iff.mpr ⟨written, hwritten, rfl⟩⟩, hwrites⟩
  | aggregate settings table calls function column =>
      rcases bind_eq_ok_iff.mp h with ⟨selection, hchecked, hrest⟩
      rcases bind_eq_ok_iff.mp hrest with ⟨aggregate, haggregate, hrest⟩
      rcases bind_eq_ok_iff.mp hrest with ⟨target, htarget, haggregated⟩
      rcases Selection.writes_aggregated haggregated with
        ⟨written, hwritten, hwrites⟩
      rcases SelectBuilder.parts_start settings table with ⟨owner, hstart⟩
      rw [SelectBuilder.recordAll_eq] at hchecked
      have hliteral := (Recording.simulates_flatMap
        (SelectCall.simulates settings) calls).checked
          (by rw [hstart]; rfl) hchecked
      exact ⟨written, bind_eq_ok_iff.mpr ⟨_, hliteral,
        bind_eq_ok_iff.mpr ⟨aggregate, haggregate,
          bind_eq_ok_iff.mpr ⟨target, htarget,
            bind_eq_ok_iff.mpr ⟨written, hwritten, rfl⟩⟩⟩⟩, hwrites⟩
  | insert settings table calls =>
      rcases bind_eq_ok_iff.mp h with ⟨insertion, hchecked, hfragment⟩
      rcases Insertion.writes_fragment hfragment with
        ⟨written, hwritten, hwrites⟩
      rcases InsertBuilder.parts_start settings table with ⟨owner, hstart⟩
      rw [InsertBuilder.recordAll_eq] at hchecked
      have hliteral := (Insertion.simulates settings calls).checked
        (by rw [hstart]; rfl) hchecked
      exact ⟨written, bind_eq_ok_iff.mpr ⟨_, hliteral,
        bind_eq_ok_iff.mpr ⟨written, hwritten, rfl⟩⟩, hwrites⟩
  | update settings table calls =>
      rcases bind_eq_ok_iff.mp h with ⟨update, hchecked, hfragment⟩
      rcases Update.writes_fragment hfragment with ⟨written, hwritten, hwrites⟩
      rcases UpdateBuilder.parts_start settings table with ⟨owner, hstart⟩
      rw [UpdateBuilder.recordAll_eq] at hchecked
      have hliteral := (UpdateCall.simulates settings calls).checked
        (by rw [hstart]; rfl) hchecked
      exact ⟨written, bind_eq_ok_iff.mpr ⟨_, hliteral,
        bind_eq_ok_iff.mpr ⟨written, hwritten, rfl⟩⟩, hwrites⟩
  | delete settings table calls =>
      rcases bind_eq_ok_iff.mp h with ⟨deletion, hchecked, hfragment⟩
      rcases Deletion.writes_fragment hfragment with
        ⟨written, hwritten, hwrites⟩
      rcases DeleteBuilder.parts_start settings table with ⟨owner, hstart⟩
      rw [DeleteBuilder.recordAll_eq] at hchecked
      have hliteral := (DeleteCall.simulates settings calls).checked
        (by rw [hstart]; rfl) hchecked
      exact ⟨written, bind_eq_ok_iff.mpr ⟨_, hliteral,
        bind_eq_ok_iff.mpr ⟨written, hwritten, rfl⟩⟩, hwrites⟩

theorem debugSql_eq_literalStatement {script : Script} {statement : Statement}
    (hback : ∀ call ∈ script.embedded,
      Statement.backslashInBackticks .outside call.toList = false)
    (h : script.statement = .ok statement) :
    (∃ reference, script.literalStatement = .ok reference ∧
      reference.params = [] ∧ statement.debugSql = reference.sql) ∧
    statement.params = script.values ∧
    statement.markerCount = statement.params.length := by
  rw [statement_eq] at h
  rcases map_eq_ok_iff.mp h with ⟨fragment, hfragment, rfl⟩
  have hneutral : fragment.Neutral := by
    refine neutral_fragment (fun call hcall => ?_) hfragment
    exact Statement.neutral_of_callFault?
      (FunctionNames.callFault?_of_embeds (embeds_of_mem_embedded hcall))
      (hback call hcall)
  rcases literalStatement_of_fragment hfragment with
    ⟨written, hreference, hwrites⟩
  refine ⟨⟨written.statement, hreference, hwrites.params, ?_⟩,
    params_fragment hfragment, Fragment.markerCount_of_neutral hneutral⟩
  rw [Fragment.debugSql_of_neutral hneutral, ← hwrites.sql]
  rfl

/-- The list of an update is written after its assignments, and so are the
values of the list, although the list was recorded first. -/
theorem debugSql_of_update_with_list :
    (∃ reference,
      Script.literalStatement (.update .standard "t"
          [.filter (.filterBy "id" (.membership false) "2,3"),
            .assign (.set "a" (.text "x")),
            .assign (.setFunction "b" "NOW()")]) = .ok reference ∧
        reference.params = [] ∧
        Statement.debugSql
            ⟨"UPDATE t SET a = ?, b = NOW() WHERE t.id IN (?,?)",
              [.text "x", .text "2", .text "3"]⟩ = reference.sql) ∧
      Statement.debugSql
          ⟨"UPDATE t SET a = ?, b = NOW() WHERE t.id IN (?,?)",
            [.text "x", .text "2", .text "3"]⟩ =
        "UPDATE t SET a = 'x', b = NOW() WHERE t.id IN ('2','3')" := by
  refine ⟨(debugSql_eq_literalStatement ?_ ?_).1, ?_⟩
  · have hembedded : Script.embedded (.update .standard "t"
        [.filter (.filterBy "id" (.membership false) "2,3"),
          .assign (.set "a" (.text "x")),
          .assign (.setFunction "b" "NOW()")]) = ["NOW()"] := by cbv
    rw [hembedded]
    decide
  · cbv
  · cbv

end Script
end SqlAssembler
