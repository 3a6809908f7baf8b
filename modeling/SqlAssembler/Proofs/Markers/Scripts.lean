import SqlAssembler.Proofs.Markers.Fragments
import SqlAssembler.Proofs.Scripts.Recorded
import SqlAssembler.Proofs.Scripts.Written

/-!
# Scripts write neutral fragments

If the embedded calls of a script are neutral, so is every text that the script
writes. Identifiers, columns and labels are neutral by themselves, and the words
between them contain no quotes that stay open.
-/

namespace SqlAssembler

open Text Statement

variable {functions : FunctionNames} {calls : String → Prop}

/-!
## Conditions
-/

theorem Comparison.neutral_sql (kind : Comparison) : Neutral kind.sql := by
  cases kind <;> decide

namespace Filter

variable {column value : String}

theorem neutral_comparison {kind : Comparison} {embedded : Bool}
    (hcolumn : Neutral column) (hvalue : embedded = true → Neutral value) :
    (comparison column value kind embedded).Neutral := by
  have hhead : Neutral (column ++ " " ++ kind.sql ++ " ") :=
    ((hcolumn.append (by decide)).append kind.neutral_sql).append (by decide)
  rw [comparison]
  split
  · exact Fragment.neutral_text (hhead.append (by decide))
  · split
    · rename_i hembedded
      exact Fragment.neutral_text (hhead.append (hvalue hembedded))
    · exact (Fragment.neutral_slot _).cons_text hhead

theorem neutral_pattern {shape : Pattern} {embedded : Bool}
    (hcolumn : Neutral column) (hvalue : embedded = true → Neutral value) :
    (pattern column value shape embedded).Neutral := by
  have htarget :
      Neutral (if shape.caseless then column else "BINARY " ++ column) := by
    split
    · exact hcolumn
    · exact Neutral.append (by decide) hcolumn
  have hhead := htarget.append
    (by cases shape.negated <;> decide :
      Neutral (if shape.negated then " NOT LIKE " else " LIKE "))
  rw [pattern]
  split
  · rename_i hembedded
    exact Fragment.neutral_text (hhead.append (hvalue hembedded))
  · exact (Fragment.neutral_slot _).cons_text hhead

theorem neutral_slots (params : List Param) : (slots params).Neutral := by
  apply Fragment.neutral_separated (by decide)
  intro fragment hfragment
  rcases List.mem_map.mp hfragment with ⟨param, _, rfl⟩
  exact Fragment.neutral_slot param

theorem neutral_membership {negated embedded : Bool}
    (hcolumn : Neutral column) (hvalue : embedded = true → Neutral value) :
    (membership column value negated embedded).Neutral := by
  have hhead := hcolumn.append
    (by cases negated <;> decide :
      Neutral (if negated then " NOT IN (" else " IN ("))
  rw [membership]
  split
  · rename_i hembedded
    exact Fragment.neutral_text
      ((hhead.append (hvalue hembedded)).append (by decide))
  · exact ((neutral_slots _).cons_text hhead).append
      (Fragment.neutral_text (by decide))

theorem neutral_nullness {isNull : Bool} (hcolumn : Neutral column) :
    (nullness column isNull).Neutral :=
  Fragment.neutral_text (hcolumn.append (by cases isNull <;> decide))

theorem neutral_condition {operator : Operator} {fragment : Fragment}
    (hcolumn : Neutral column)
    (hvalue : functions.embeds value = .ok true → Neutral value)
    (h : condition functions column operator value = .ok fragment) :
    fragment.Neutral := by
  rw [condition] at h
  split at h
  · cases h
  · rename_i embedded hembeds
    have hembedded : embedded = true → Neutral value := by
      rintro rfl
      exact hvalue hembeds
    cases operator with
    | comparison kind =>
        cases h
        exact neutral_comparison hcolumn hembedded
    | pattern shape =>
        cases h
        exact neutral_pattern hcolumn hembedded
    | membership negated =>
        cases h
        exact neutral_membership hcolumn hembedded
    | nullness negated =>
        dsimp only at h
        split at h
        · cases h
          exact neutral_nullness hcolumn
        · cases h

theorem Gives.neutral {fragment : Fragment}
    (h : Gives functions calls fragment)
    (hcalls : ∀ text, calls text → Neutral text) : fragment.Neutral := by
  rcases h with ⟨column, operator, value, hcolumn, hcondition, hvalue⟩
  exact neutral_condition (hcolumn.neutral_sql fun _ hfalse => hfalse.elim)
    (fun hembeds => hcalls value (hvalue hembeds)) hcondition

end Filter

namespace Conditions

theorem neutral_connectorPieces (connector : Option Connector) :
    (connectorPieces connector).Neutral := by
  cases connector with
  | none => exact Fragment.neutral_nil
  | some connector =>
      cases connector <;> exact Fragment.neutral_text (by decide)

theorem WellFormed.neutral_nodePieces {conditions : Conditions}
    (h : conditions.WellFormed functions calls)
    (hcalls : ∀ text, calls text → Neutral text) {node : Node}
    (hnode : node ∈ conditions.nodes) : (nodePieces node).Neutral := by
  cases node with
  | opening connector =>
      exact (neutral_connectorPieces connector).append
        (Fragment.neutral_text (by decide))
  | closing => exact Fragment.neutral_text (by decide)
  | condition connector fragment =>
      exact (neutral_connectorPieces connector).append
        ((h connector fragment hnode).neutral hcalls)

theorem WellFormed.neutral_render {conditions : Conditions}
    {fragment : Fragment} (h : conditions.WellFormed functions calls)
    (hcalls : ∀ text, calls text → Neutral text)
    (hrender : conditions.render = .ok fragment) : fragment.Neutral := by
  rcases render_eq_ok_iff.mp hrender with ⟨_, rfl⟩
  split
  · exact Fragment.neutral_nil
  · apply Fragment.Neutral.cons_text (by decide)
    intro piece hpiece
    rcases List.mem_flatMap.mp hpiece with ⟨node, hnode, hmem⟩
    exact h.neutral_nodePieces hcalls hnode piece hmem

end Conditions

/-!
## Selections
-/

theorem Statement.neutral_toString (n : Nat) : Neutral (toString n) := by
  apply neutral_of_plain
  intro c hc
  have hdigit : c ∈ Nat.toDigits 10 n := by
    simpa [toString, Nat.repr] using hc
  exact isPlain_of_class (p := Char.isDigit) (by decide)
    (Nat.isDigit_of_mem_toDigits (by decide) (by decide) hdigit)

theorem Join.WellFormed.neutral_sql {join : Join} (h : join.WellFormed) :
    Neutral join.sql := by
  have hkind : Neutral join.kind.sql := by cases join.kind <;> decide
  have hleft := h.left.neutral_sql fun _ hfalse => hfalse.elim
  have hright := h.right.neutral_sql fun _ hfalse => hfalse.elim
  have htable := h.table.neutral
  rw [sql]
  refine Neutral.append (.append (.append (.append (.append (.append (.append
    ?_ hkind) ?_) htable) ?_) hleft) ?_) hright <;> decide

namespace Selection

theorem neutral_commaList {items : List String}
    (h : ∀ item ∈ items, Neutral item) : Neutral (commaList items) :=
  neutral_intercalate (by decide) h

theorem neutral_limitText (selection : Selection) :
    Neutral selection.limitText := by
  rw [limitText]
  split
  · exact Neutral.append (by decide) (neutral_toString _)
  · exact Neutral.append (by decide) (neutral_toString _)
  · exact neutral_empty

theorem neutral_offsetText (selection : Selection) :
    Neutral selection.offsetText := by
  rw [offsetText]
  split
  · exact Neutral.append (by decide) (neutral_toString _)
  · exact neutral_empty

namespace WellFormed

variable {selection : Selection}

theorem neutral_columnsText (h : selection.WellFormed functions calls)
    (hcalls : ∀ text, calls text → Neutral text) :
    Neutral selection.columnsText := by
  rw [columnsText]
  split
  · decide
  · apply neutral_commaList
    intro item hitem
    rcases List.mem_map.mp hitem with ⟨column, hcolumn, rfl⟩
    exact (h.columns column hcolumn).neutral_projectionSql hcalls

theorem neutral_groupText (h : selection.WellFormed functions calls) :
    Neutral selection.groupText := by
  rw [groupText]
  split
  · exact neutral_empty
  · refine Neutral.append (by decide) (neutral_commaList fun item hitem => ?_)
    rcases List.mem_map.mp hitem with ⟨column, hcolumn, rfl⟩
    exact (h.groupBy column hcolumn).neutral_sql fun _ hfalse => hfalse.elim

theorem neutral_orderText (h : selection.WellFormed functions calls) :
    Neutral selection.orderText := by
  rw [orderText]
  split
  · exact neutral_empty
  · refine Neutral.append (by decide) (neutral_commaList fun item hitem => ?_)
    rcases List.mem_map.mp hitem with ⟨key, hkey, rfl⟩
    have hcolumn :=
      (h.orderBy key hkey).neutral_sql fun _ hfalse => hfalse.elim
    refine (hcolumn.append (by decide)).append ?_
    cases key.direction <;> decide

theorem neutral_source {fragment : Fragment}
    (h : selection.WellFormed functions calls)
    (hcalls : ∀ text, calls text → Neutral text)
    (hsource : selection.source = .ok fragment) : fragment.Neutral := by
  rcases source_eq_ok_iff.mp hsource with
    ⟨table, conditions, htable, hrender, rfl⟩
  have hjoins :
      Fragment.Neutral
        (selection.joins.map fun join => Piece.text join.sql) := by
    intro piece hpiece
    rcases List.mem_map.mp hpiece with ⟨join, hjoin, rfl⟩
    exact (h.joins join hjoin).neutral_sql
  apply Fragment.Neutral.cons_text
  · exact Neutral.append (by decide) (h.table table htable).neutral
  · exact (hjoins.append (h.conditions.neutral_render hcalls hrender)).append
      (Fragment.neutral_text h.neutral_groupText)

theorem neutral_rows {fragment : Fragment}
    (h : selection.WellFormed functions calls)
    (hcalls : ∀ text, calls text → Neutral text)
    (hrows : selection.rows = .ok fragment) : fragment.Neutral := by
  rcases map_eq_ok_iff.mp hrows with ⟨source, hsource, rfl⟩
  have hdistinct :
      Neutral (if selection.distinct then "DISTINCT " else "") := by
    cases selection.distinct <;> decide
  have hhead := (Neutral.append (by decide : Neutral "SELECT ")
    hdistinct).append (h.neutral_columnsText hcalls)
  have htail := (h.neutral_orderText.append
    selection.neutral_limitText).append selection.neutral_offsetText
  exact ((h.neutral_source hcalls hsource).append
    (Fragment.neutral_text htail)).cons_text hhead

theorem neutral_target {aggregate : Aggregate} {column : Column}
    {target : String} (hcolumn : column.WellFormed (fun _ => False))
    (htarget : aggregate.target column = .ok target) : Neutral target := by
  have hsql := hcolumn.neutral_sql fun _ hfalse => hfalse.elim
  unfold Aggregate.target at htarget
  split at htarget
  · split at htarget
    · cases htarget
      exact hsql
    · cases htarget
  · cases htarget
  · cases htarget
  · cases htarget
    exact hsql
  · cases htarget
    exact hsql

theorem neutral_aggregateSql (aggregate : Aggregate) {target : String}
    (h : Neutral target) : Neutral (aggregate.sql target) := by
  have hfunction : Neutral aggregate.function.sql := by
    cases aggregate.function <;> decide
  have hdistinct :
      Neutral (if aggregate.distinct then "DISTINCT " else "") := by
    cases aggregate.distinct <;> decide
  exact (((hfunction.append (by decide)).append hdistinct).append h).append
    (by decide)

theorem neutral_aggregated {fragment : Fragment} {aggregate : Aggregate}
    {column : Column} (h : selection.WellFormed functions calls)
    (hcalls : ∀ text, calls text → Neutral text)
    (hcolumn : column.WellFormed (fun _ => False))
    (haggregated : selection.aggregated aggregate column = .ok fragment) :
    fragment.Neutral := by
  rw [aggregated] at haggregated
  split at haggregated
  · cases haggregated
  · rename_i target htarget
    rcases map_eq_ok_iff.mp haggregated with ⟨source, hsource, rfl⟩
    have hhead := Neutral.append (by decide : Neutral "SELECT ")
      (neutral_aggregateSql aggregate (neutral_target hcolumn htarget))
    have htail : Neutral
        (if selection.groupBy.isEmpty then "" else selection.orderText) := by
      split
      · exact neutral_empty
      · exact h.neutral_orderText
    exact ((h.neutral_source hcalls hsource).append
      (Fragment.neutral_text htail)).cons_text hhead

end WellFormed
end Selection

/-!
## Insertions, updates and deletions
-/

theorem AssignedValue.WellFormed.neutral {value : AssignedValue}
    (h : value.WellFormed calls) (hcalls : ∀ text, calls text → Neutral text) :
    Fragment.Neutral [value.piece] := by
  cases value with
  | bound value => exact Fragment.neutral_slot value
  | call text => exact Fragment.neutral_text (hcalls text h)

theorem Insertion.WellFormed.neutral {insertion : Insertion}
    {fragment : Fragment} (h : insertion.WellFormed calls)
    (hcalls : ∀ text, calls text → Neutral text)
    (hfragment : insertion.fragment = .ok fragment) : fragment.Neutral := by
  rcases Insertion.fragment_eq_ok_iff.mp hfragment with ⟨table, htable, _, rfl⟩
  have hcolumns : Neutral (Selection.commaList
      (insertion.assignments.map fun assignment =>
        assignment.column.sql)) := by
    apply Selection.neutral_commaList
    intro item hitem
    rcases List.mem_map.mp hitem with ⟨assignment, hassignment, rfl⟩
    exact (h.assignments assignment hassignment).column.neutral
  have hvalues : Fragment.Neutral (Fragment.separated ", "
      (insertion.assignments.map fun assignment =>
        [assignment.value.piece])) := by
    apply Fragment.neutral_separated (by decide)
    intro value hvalue
    rcases List.mem_map.mp hvalue with ⟨assignment, hassignment, rfl⟩
    exact (h.assignments assignment hassignment).value.neutral hcalls
  have hhead := (((Neutral.append (by decide : Neutral "INSERT INTO ")
    (h.table table htable).neutral).append
      (by decide : Neutral " (")).append hcolumns).append
        (by decide : Neutral ") VALUES (")
  exact (hvalues.append (Fragment.neutral_text (by decide))).cons_text hhead

theorem Update.WellFormed.neutral {update : Update} {fragment : Fragment}
    (h : update.WellFormed functions calls)
    (hcalls : ∀ text, calls text → Neutral text)
    (hfragment : update.fragment = .ok fragment) : fragment.Neutral := by
  rcases Update.fragment_eq_ok_iff.mp hfragment with
    ⟨table, conditions, htable, _, hrender, rfl⟩
  have hassigned : Fragment.Neutral (Fragment.separated ", "
      (update.assignments.map Update.assignmentFragment)) := by
    apply Fragment.neutral_separated (by decide)
    intro assigned hmem
    rcases List.mem_map.mp hmem with ⟨assignment, hassignment, rfl⟩
    have hwell := h.assignments assignment hassignment
    exact (hwell.value.neutral hcalls).cons_text
      (hwell.column.neutral.append (by decide))
  have hhead := (Neutral.append (by decide : Neutral "UPDATE ")
    (h.table table htable).neutral).append (by decide : Neutral " SET ")
  exact (hassigned.append
    (h.conditions.neutral_render hcalls hrender)).cons_text hhead

theorem Deletion.WellFormed.neutral {deletion : Deletion} {fragment : Fragment}
    (h : deletion.WellFormed functions calls)
    (hcalls : ∀ text, calls text → Neutral text)
    (hfragment : deletion.fragment = .ok fragment) : fragment.Neutral := by
  rcases Deletion.fragment_eq_ok_iff.mp hfragment with
    ⟨table, restriction, htable, hrestriction, rfl⟩
  have hneutral : Fragment.Neutral restriction := by
    rcases Deletion.restriction_eq_ok_iff.mp hrestriction with
      ⟨_, rfl⟩ | ⟨_, hrender⟩
    · split
      · exact Fragment.neutral_nil
      · exact Fragment.neutral_text (by decide)
    · exact h.conditions.neutral_render hcalls hrender
  exact hneutral.cons_text
    (Neutral.append (by decide) (h.table table htable).neutral)

/-!
## Scripts
-/

theorem Script.neutral_fragment {script : Script} {fragment : Fragment}
    (hcalls : ∀ text ∈ script.embedded, Neutral text)
    (h : script.fragment = .ok fragment) : fragment.Neutral := by
  cases script with
  | select settings table calls =>
      rcases bind_eq_ok_iff.mp h with ⟨selection, hchecked, hrows⟩
      rw [← (Recording.checked_eq_ok_iff.mp hchecked).2] at hrows
      exact (SelectBuilder.parts_wellFormed fun _ hmem => hmem).neutral_rows
        hcalls hrows
  | aggregate settings table calls function column =>
      rcases bind_eq_ok_iff.mp h with ⟨selection, hchecked, hrest⟩
      rcases bind_eq_ok_iff.mp hrest with ⟨aggregate, _, hrest⟩
      rcases bind_eq_ok_iff.mp hrest with ⟨target, htarget, haggregated⟩
      rw [← (Recording.checked_eq_ok_iff.mp hchecked).2] at htarget haggregated
      have hparts : Selection.WellFormed settings.functions
          (· ∈ calls.flatMap (SelectCall.embedded settings))
          ((SelectBuilder.start settings table).recordAll
            calls).recording.parts :=
        SelectBuilder.parts_wellFormed fun _ hmem => hmem
      exact hparts.neutral_aggregated hcalls
        (Column.wellFormed_of_parseAggregateTarget hparts.table htarget)
        haggregated
  | insert settings table calls =>
      rcases bind_eq_ok_iff.mp h with ⟨insertion, hchecked, hwritten⟩
      rw [← (Recording.checked_eq_ok_iff.mp hchecked).2] at hwritten
      exact (InsertBuilder.parts_wellFormed fun _ hmem => hmem).neutral hcalls
        hwritten
  | update settings table calls =>
      rcases bind_eq_ok_iff.mp h with ⟨update, hchecked, hwritten⟩
      rw [← (Recording.checked_eq_ok_iff.mp hchecked).2] at hwritten
      exact (UpdateBuilder.parts_wellFormed fun _ hmem => hmem).neutral hcalls
        hwritten
  | delete settings table calls =>
      rcases bind_eq_ok_iff.mp h with ⟨deletion, hchecked, hwritten⟩
      rw [← (Recording.checked_eq_ok_iff.mp hchecked).2] at hwritten
      exact (DeleteBuilder.parts_wellFormed fun _ hmem => hmem).neutral hcalls
        hwritten

end SqlAssembler
