import Mathlib
import SqlAssembler.Proofs.Containment.Conditions
import SqlAssembler.Proofs.Scripts.Written

/-!
# Statements are contained

Whatever texts a caller hands to a builder, they do not get out of their place
in the statement: all quotes are closed, and outside them no statement ends, no
comment starts and the parentheses belong together. Only a call with a backslash
between backticks can break this, as the call checker and the reader of the
statement do not agree on what the backslash does there.
-/

namespace SqlAssembler

open Text Statement

variable {functions : FunctionNames} {calls : String → Prop} {depth : Nat}

/-!
## Selections
-/

theorem Join.WellFormed.leads_sql {join : Join} (h : join.WellFormed) :
    Leads (Orderly depth) join.sql (Orderly depth) := by
  have hkind : Leads (Orderly depth) join.kind.sql (Settled depth) := by
    cases join.kind <;> exact leads_word (by decide)
  have hon : Leads (Orderly depth) " ON " (Settled depth) :=
    leads_word (by decide)
  have hequals : Leads (Orderly depth) " = " (Settled depth) :=
    leads_word (by decide)
  have hjoined := (((leads_space.append hkind.of_orderly).append
    leads_space.of_orderly).append h.table.leads.of_orderly).append
      hon.of_orderly
  exact (((hjoined.append h.left.leads_sql).append
    hequals.of_orderly).append h.right.leads_sql).orderly

theorem Statement.leads_toString (n : Nat) :
    Leads (Orderly depth) (toString n) (Settled depth) := by
  have hdigits : (toString n).toList = Nat.toDigits 10 n := by
    simp [toString, Nat.repr]
  apply leads_of_class (p := Char.isDigit) (by decide) (by decide)
  · intro hempty
    rw [hempty] at hdigits
    exact Nat.toDigits_ne_nil hdigits.symm
  · intro c hc
    rw [hdigits] at hc
    exact Nat.isDigit_of_mem_toDigits (by decide) (by decide) hc

namespace Selection

theorem leads_commaList {items : List String} (hne : items ≠ [])
    (h : ∀ item ∈ items, Leads (Settled depth) item (Orderly depth)) :
    Leads (Settled depth) (commaList items) (Orderly depth) :=
  leads_intercalate hne leads_comma h

theorem leads_limitText (selection : Selection) :
    Leads (Orderly depth) selection.limitText (Orderly depth) := by
  have hlimit : Leads (Orderly depth) " LIMIT " (Settled depth) :=
    leads_word (by decide)
  unfold limitText
  split
  · exact (hlimit.append (leads_toString _).of_orderly).orderly
  · exact (hlimit.append (leads_toString _).of_orderly).orderly
  · exact leads_empty

theorem leads_offsetText (selection : Selection) :
    Leads (Orderly depth) selection.offsetText (Orderly depth) := by
  have hoffset : Leads (Orderly depth) " OFFSET " (Settled depth) :=
    leads_word (by decide)
  unfold offsetText
  split
  · exact (hoffset.append (leads_toString _).of_orderly).orderly
  · exact leads_empty

namespace WellFormed

variable {selection : Selection}

theorem leads_columnsText (h : selection.WellFormed functions calls)
    (hcalls : ∀ text, calls text → Contained text) :
    Leads (Settled depth) selection.columnsText (Orderly depth) := by
  unfold columnsText
  split
  · exact Column.leads_wildcard.orderly
  · rename_i hcolumns
    apply leads_commaList
    · simpa using hcolumns
    · intro item hitem
      rcases List.mem_map.mp hitem with ⟨column, hcolumn, rfl⟩
      exact (h.columns column hcolumn).leads_projectionSql fun text htext =>
        hcalls text htext depth

theorem leads_groupText (h : selection.WellFormed functions calls) :
    Leads (Orderly depth) selection.groupText (Orderly depth) := by
  unfold groupText
  split
  · exact leads_empty
  · rename_i hgroups
    have hwords : Leads (Orderly depth) " GROUP BY " (Settled depth) :=
      leads_word (by decide)
    apply hwords.append
    apply leads_commaList
    · simpa using hgroups
    · intro item hitem
      rcases List.mem_map.mp hitem with ⟨column, hcolumn, rfl⟩
      exact (h.groupBy column hcolumn).leads_sql.orderly

theorem leads_orderText (h : selection.WellFormed functions calls) :
    Leads (Orderly depth) selection.orderText (Orderly depth) := by
  unfold orderText
  split
  · exact leads_empty
  · rename_i hkeys
    have hwords : Leads (Orderly depth) " ORDER BY " (Settled depth) :=
      leads_word (by decide)
    apply hwords.append
    apply leads_commaList
    · simpa using hkeys
    · intro item hitem
      rcases List.mem_map.mp hitem with ⟨key, hkey, rfl⟩
      have hdirection :
          Leads (Orderly depth) key.direction.sql (Settled depth) := by
        cases key.direction <;> exact leads_word (by decide)
      exact (((h.orderBy key hkey).leads_sql.append
        leads_space.of_orderly).append hdirection.of_orderly).orderly

theorem leads_joins (h : ∀ join ∈ selection.joins, join.WellFormed) :
    Leads (Orderly depth)
      (Fragment.sql (selection.joins.map fun join => .text join.sql))
      (Orderly depth) := by
  generalize selection.joins = joins at h
  induction joins with
  | nil => exact leads_empty
  | cons join rest ih =>
      have hrest := ih fun other hother =>
        h other (List.mem_cons_of_mem join hother)
      exact Fragment.leads_cons (h join List.mem_cons_self).leads_sql hrest

theorem leads_source {fragment : Fragment} {all : String → Prop}
    (h : selection.WellFormed functions all)
    (hrecorded : selection.conditions.Recorded)
    (hconditions : selection.conditions.WellFormed functions calls)
    (hcalls : ∀ text, calls text → Contained text)
    (hsource : selection.source = .ok fragment) :
    Leads (Orderly depth) fragment.sql (Orderly depth) := by
  rcases source_eq_ok_iff.mp hsource with
    ⟨table, conditions, htable, hrender, rfl⟩
  have hfrom : Leads (Orderly depth) " FROM " (Settled depth) :=
    leads_word (by decide)
  have htarget : Leads (Orderly depth) (" FROM " ++ table.sql)
      (Orderly depth) :=
    (hfrom.append (h.table table htable).leads.of_orderly).orderly
  have hwhere : Leads (Orderly depth) conditions.sql (Orderly depth) :=
    Conditions.leads_render hrecorded hconditions hcalls hrender
  exact Fragment.leads_append
    (Fragment.leads_append
      (Fragment.leads_cons htarget (leads_joins h.joins)) hwhere)
    (Fragment.leads_text h.leads_groupText)

theorem leads_rows {fragment : Fragment}
    (h : selection.WellFormed functions calls)
    (hrecorded : selection.conditions.Recorded)
    (hcalls : ∀ text, calls text → Contained text)
    (hrows : selection.rows = .ok fragment) :
    Leads (Orderly depth) fragment.sql (Orderly depth) := by
  rcases map_eq_ok_iff.mp hrows with ⟨source, hsource, rfl⟩
  have hselect : Leads (Orderly depth) "SELECT " (Settled depth) :=
    leads_word (by decide)
  have hdistinct : Leads (Settled depth)
      (if selection.distinct then "DISTINCT " else "") (Settled depth) := by
    split
    · exact (leads_word (by decide)).of_orderly
    · exact leads_empty
  have hhead := (hselect.append hdistinct).append (h.leads_columnsText hcalls)
  have hmiddle : Leads (Orderly depth) (Fragment.sql source)
      (Orderly depth) :=
    h.leads_source hrecorded h.conditions hcalls hsource
  have htail : Leads (Orderly depth) (selection.orderText ++
      selection.limitText ++ selection.offsetText) (Orderly depth) :=
    (h.leads_orderText.append
      selection.leads_limitText).append selection.leads_offsetText
  exact Fragment.leads_append (Fragment.leads_cons hhead hmiddle)
    (Fragment.leads_text htail)

theorem leads_target {aggregate : Aggregate} {column : Column}
    {target : String} (hcolumn : column.WellFormed (fun _ => False))
    (htarget : aggregate.target column = .ok target) :
    Leads (Settled depth) target (Settled depth) := by
  unfold Aggregate.target at htarget
  split at htarget
  · split at htarget
    · cases htarget
      exact hcolumn.leads_sql
    · cases htarget
  · cases htarget
  · cases htarget
  · cases htarget
    exact hcolumn.leads_sql
  · cases htarget
    exact hcolumn.leads_sql

theorem leads_aggregateSql (aggregate : Aggregate) {target : String}
    (htarget : Leads (Settled (depth + 1)) target (Settled (depth + 1))) :
    Leads (Settled depth) (aggregate.sql target) (Settled depth) := by
  have hfunction : Leads (Settled depth) aggregate.function.sql
      (Settled depth) := by
    cases aggregate.function <;> exact (leads_word (by decide)).of_orderly
  have hdistinct : Leads (Settled (depth + 1))
      (if aggregate.distinct then "DISTINCT " else "")
      (Settled (depth + 1)) := by
    split
    · exact (leads_word (by decide)).of_orderly
    · exact leads_empty
  exact (((hfunction.append leads_open.of_orderly).append hdistinct).append
    htarget).append leads_close.of_orderly

theorem leads_aggregated {fragment : Fragment} {aggregate : Aggregate}
    {column : Column} {all : String → Prop}
    (h : selection.WellFormed functions all)
    (hrecorded : selection.conditions.Recorded)
    (hconditions : selection.conditions.WellFormed functions calls)
    (hcalls : ∀ text, calls text → Contained text)
    (hcolumn : column.WellFormed (fun _ => False))
    (haggregated : selection.aggregated aggregate column = .ok fragment) :
    Leads (Orderly depth) fragment.sql (Orderly depth) := by
  unfold aggregated at haggregated
  split at haggregated
  · cases haggregated
  · rename_i target htarget
    rcases map_eq_ok_iff.mp haggregated with ⟨source, hsource, rfl⟩
    have hselect : Leads (Orderly depth) "SELECT " (Settled depth) :=
      leads_word (by decide)
    have hhead := hselect.append
      (leads_aggregateSql aggregate (leads_target hcolumn htarget))
    have hmiddle : Leads (Orderly depth) (Fragment.sql source)
      (Orderly depth) :=
      h.leads_source hrecorded hconditions hcalls hsource
    have htail : Leads (Orderly depth)
        (if selection.groupBy.isEmpty then "" else selection.orderText)
        (Orderly depth) := by
      split
      · exact leads_empty
      · exact h.leads_orderText
    exact Fragment.leads_append (Fragment.leads_cons hhead.orderly hmiddle)
      (Fragment.leads_text htail)

end WellFormed
end Selection

/-!
## Insertions, updates and deletions
-/

theorem AssignedValue.WellFormed.leads {value : AssignedValue}
    (h : value.WellFormed calls)
    (hcalls : ∀ text, calls text → Contained text) :
    Leads (Settled depth) (Fragment.sql [value.piece]) (Orderly depth) := by
  cases value with
  | bound value => exact (Fragment.leads_slot value).of_orderly.orderly
  | call text => exact Fragment.leads_text (hcalls text h depth)

theorem Insertion.WellFormed.leads_fragment {insertion : Insertion}
    {fragment : Fragment} (h : insertion.WellFormed calls)
    (hcalls : ∀ text, calls text → Contained text)
    (hfragment : insertion.fragment = .ok fragment) :
    Leads (Orderly depth) fragment.sql (Orderly depth) := by
  rcases Insertion.fragment_eq_ok_iff.mp hfragment with
    ⟨table, htable, hne, rfl⟩
  have hinsert : Leads (Orderly depth) "INSERT INTO " (Settled depth) :=
    leads_word (by decide)
  have hopening : Leads (Orderly depth) " (" (Settled (depth + 1)) :=
    leads_opening (by decide)
  have hcolumns : Leads (Settled (depth + 1)) (Selection.commaList
      (insertion.assignments.map fun assignment => assignment.column.sql))
      (Orderly (depth + 1)) := by
    apply Selection.leads_commaList
    · simpa using hne
    · intro item hitem
      rcases List.mem_map.mp hitem with ⟨assignment, hassignment, rfl⟩
      have hcolumn := (h.assignments assignment hassignment).column
      exact hcolumn.leads.of_orderly.orderly
  have hbetween : Leads (Orderly (depth + 1)) ") VALUES ("
      (Settled (depth + 1)) := by
    have hclosing : Leads (Orderly (depth + 1)) ") VALUES " (Settled depth) :=
      leads_closing (by decide)
    exact hclosing.append leads_open.of_orderly
  have hvalues : Leads (Settled (depth + 1)) (Fragment.sql
      (Fragment.separated ", " (insertion.assignments.map fun assignment =>
        [assignment.value.piece]))) (Orderly (depth + 1)) := by
    apply Fragment.leads_separated
    · simpa using hne
    · exact leads_comma
    · intro value hvalue
      rcases List.mem_map.mp hvalue with ⟨assignment, hassignment, rfl⟩
      exact (h.assignments assignment hassignment).value.leads hcalls
  have hhead := (((hinsert.append
    (h.table table htable).leads.of_orderly).append
      hopening.of_orderly).append hcolumns).append hbetween
  exact Fragment.leads_append (Fragment.leads_cons hhead hvalues)
    (Fragment.leads_text leads_close.orderly)

theorem Update.WellFormed.leads_fragment {update : Update} {fragment : Fragment}
    (h : update.WellFormed functions calls)
    (hrecorded : update.conditions.Recorded)
    (hcalls : ∀ text, calls text → Contained text)
    (hfragment : update.fragment = .ok fragment) :
    Leads (Orderly depth) fragment.sql (Orderly depth) := by
  rcases Update.fragment_eq_ok_iff.mp hfragment with
    ⟨table, conditions, htable, hne, hrender, rfl⟩
  have hupdate : Leads (Orderly depth) "UPDATE " (Settled depth) :=
    leads_word (by decide)
  have hset : Leads (Orderly depth) " SET " (Settled depth) :=
    leads_word (by decide)
  have hequals : Leads (Orderly depth) " = " (Settled depth) :=
    leads_word (by decide)
  have hassigned : Leads (Settled depth) (Fragment.sql
      (Fragment.separated ", " (update.assignments.map assignmentFragment)))
      (Orderly depth) := by
    apply Fragment.leads_separated
    · simpa using hne
    · exact leads_comma
    · intro assigned hmem
      rcases List.mem_map.mp hmem with ⟨assignment, hassignment, rfl⟩
      have hwell := h.assignments assignment hassignment
      have hcolumn := hwell.column.leads.append hequals.of_orderly
      exact Fragment.leads_cons hcolumn.of_orderly (hwell.value.leads hcalls)
  have hhead := (hupdate.append
    (h.table table htable).leads.of_orderly).append hset.of_orderly
  exact Fragment.leads_append (Fragment.leads_cons hhead hassigned)
    (Conditions.leads_render hrecorded h.conditions hcalls hrender)

theorem Deletion.WellFormed.leads_fragment {deletion : Deletion}
    {fragment : Fragment} (h : deletion.WellFormed functions calls)
    (hrecorded : deletion.conditions.Recorded)
    (hcalls : ∀ text, calls text → Contained text)
    (hfragment : deletion.fragment = .ok fragment) :
    Leads (Orderly depth) fragment.sql (Orderly depth) := by
  rcases Deletion.fragment_eq_ok_iff.mp hfragment with
    ⟨table, restriction, htable, hrestriction, rfl⟩
  have hdelete : Leads (Orderly depth) "DELETE FROM " (Settled depth) :=
    leads_word (by decide)
  have hhead := hdelete.append (h.table table htable).leads.of_orderly
  have hguard : Leads (Orderly depth) restriction.sql (Orderly depth) := by
    rcases Deletion.restriction_eq_ok_iff.mp hrestriction with
      ⟨_, rfl⟩ | ⟨_, hrender⟩
    · split
      · exact leads_empty
      · have hnone : Leads (Orderly depth) " WHERE 1=0" (Orderly depth) :=
          (leads_word (by decide)).orderly
        exact Fragment.leads_text hnone
    · exact Conditions.leads_render hrecorded h.conditions hcalls hrender
  exact Fragment.leads_cons hhead.orderly hguard

/-!
## Scripts
-/

def SelectCall.compared (settings : Settings) : SelectCall → List String
  | filter call => call.embedded settings.functions
  | _ => []

def Script.written : Script → List String
  | aggregate settings _ calls _ _ =>
      calls.flatMap (SelectCall.compared settings)
  | script => script.embedded

theorem SelectBuilder.conditions_wellFormed {settings : Settings}
    {table : String} {script : List SelectCall}
    (hcalls : ∀ text ∈ script.flatMap (SelectCall.compared settings),
      calls text) :
    ((start settings table).recordAll
      script).recording.parts.conditions.WellFormed settings.functions calls := by
  have hstep : ∀ call ∈ script, ∀ edit ∈ call.edits settings,
      ∀ selection after : Selection,
        selection.WellFormed settings.functions (fun _ => True) ∧
          selection.conditions.WellFormed settings.functions calls →
        edit selection = .ok after →
          after.WellFormed settings.functions (fun _ => True) ∧
            after.conditions.WellFormed settings.functions calls := by
    intro call hcall edit hedit selection after hbefore hafter
    rcases hbefore with ⟨hselection, hconditions⟩
    constructor
    · exact SelectCall.edits_wellFormed (fun _ _ => trivial) edit hedit
        selection after hselection hafter
    · rcases SelectCall.conditions_cases hedit hafter with
        hsame | ⟨filterCall, rfl, happly⟩
      · rw [hsame]
        exact hconditions
      · apply FilterCall.apply_wellFormed hselection.table hconditions _ happly
        intro text htext
        exact hcalls text (List.mem_flatMap.mpr ⟨_, hcall, htext⟩)
  rw [recordAll_eq]
  apply And.right
  apply Recording.attemptAll_keeps
    (P := fun selection : Selection =>
      selection.WellFormed settings.functions (fun _ => True) ∧
        selection.conditions.WellFormed settings.functions calls)
  · rcases parts_start settings table with ⟨owner, hstart⟩
    constructor
    · have hnone : ∀ text ∈ ([] : List SelectCall).flatMap
          (SelectCall.embedded settings), True := fun _ _ => trivial
      exact parts_wellFormed hnone
    · rw [hstart]
      exact Conditions.wellFormed_empty
  · intro edit hedit
    rcases List.mem_flatMap.mp hedit with ⟨call, hcall, hmem⟩
    exact hstep call hcall edit hmem

theorem Script.leads_fragment {script : Script} {fragment : Fragment}
    (hcalls : ∀ text ∈ script.written, Contained text)
    (h : script.fragment = .ok fragment) :
    Leads (Orderly depth) fragment.sql (Orderly depth) := by
  cases script with
  | select settings table calls =>
      rcases bind_eq_ok_iff.mp h with ⟨selection, hchecked, hrows⟩
      rw [← (Recording.checked_eq_ok_iff.mp hchecked).2] at hrows
      exact (SelectBuilder.parts_wellFormed fun _ hmem => hmem).leads_rows
        (SelectBuilder.recorded_parts settings table calls) hcalls hrows
  | aggregate settings table calls function column =>
      rcases bind_eq_ok_iff.mp h with ⟨selection, hchecked, hrest⟩
      rcases bind_eq_ok_iff.mp hrest with ⟨aggregate, _, hrest⟩
      rcases bind_eq_ok_iff.mp hrest with ⟨target, htarget, haggregated⟩
      rw [← (Recording.checked_eq_ok_iff.mp hchecked).2] at htarget haggregated
      have hparts : Selection.WellFormed settings.functions (fun _ => True)
          ((SelectBuilder.start settings table).recordAll
            calls).recording.parts :=
        SelectBuilder.parts_wellFormed fun _ _ => trivial
      exact hparts.leads_aggregated
        (SelectBuilder.recorded_parts settings table calls)
        (SelectBuilder.conditions_wellFormed fun _ hmem => hmem) hcalls
        (Column.wellFormed_of_parseAggregateTarget hparts.table htarget)
        haggregated
  | insert settings table calls =>
      rcases bind_eq_ok_iff.mp h with ⟨insertion, hchecked, hwritten⟩
      rw [← (Recording.checked_eq_ok_iff.mp hchecked).2] at hwritten
      exact (InsertBuilder.parts_wellFormed fun _ hmem => hmem).leads_fragment
        hcalls hwritten
  | update settings table calls =>
      rcases bind_eq_ok_iff.mp h with ⟨update, hchecked, hwritten⟩
      rw [← (Recording.checked_eq_ok_iff.mp hchecked).2] at hwritten
      exact (UpdateBuilder.parts_wellFormed fun _ hmem => hmem).leads_fragment
        (UpdateBuilder.recorded_parts settings table calls) hcalls hwritten
  | delete settings table calls =>
      rcases bind_eq_ok_iff.mp h with ⟨deletion, hchecked, hwritten⟩
      rw [← (Recording.checked_eq_ok_iff.mp hchecked).2] at hwritten
      exact (DeleteBuilder.parts_wellFormed fun _ hmem => hmem).leads_fragment
        (DeleteBuilder.recorded_parts settings table calls) hcalls hwritten

theorem Script.embeds_of_mem_written {script : Script} {text : String}
    (h : text ∈ script.written) :
    script.settings.functions.embeds text = .ok true := by
  cases script with
  | aggregate settings table calls function column =>
      rcases List.mem_flatMap.mp h with ⟨call, _, hcall⟩
      cases call with
      | filter call => exact FilterCall.embeds_of_mem_embedded hcall
      | _ => cases hcall
  | _ => exact embeds_of_mem_embedded h

/-- No text of a caller closes a quote, a parenthesis or the statement, or opens
a comment, outside the place where the builder writes it. -/
theorem Script.contained_statement {script : Script} {statement : Statement}
    (hback : ∀ call ∈ script.written,
      backslashInBackticks .outside call.toList = false)
    (h : script.statement = .ok statement) :
    Quoting.run escapes .outside statement.sql.toList = .outside ∧
      Orderly 0 (outsideText .outside statement.sql.toList) := by
  rw [statement_eq] at h
  rcases map_eq_ok_iff.mp h with ⟨fragment, hfragment, rfl⟩
  have hcalls : ∀ text ∈ script.written, Contained text := by
    intro text htext depth
    exact leads_call
      (FunctionNames.callFault?_of_embeds (embeds_of_mem_written htext))
      (hback text htext)
  have hleads : Leads (Orderly 0) fragment.sql (Orderly 0) :=
    leads_fragment hcalls hfragment
  constructor
  · exact hleads.closes
  · exact hleads.carries [] settled_nil.orderly

/-- Separators, a comment and a parenthesis in a quoted table, in a call and in
a list of values. -/
theorem Script.contained_statement_of_quoted_signs :
    ∃ statement,
      Script.statement (.delete .standard "`;--`"
          [.filter (.openGroup .and),
            .filter (.filterBy "a" (.comparison .eq) "NOW(';)')"),
            .filter .closeGroup,
            .filter (.filterBy "b" (.membership false) "1;,--")]) =
          .ok statement ∧
        statement.sql =
          "DELETE FROM `;--` WHERE (`;--`.a = NOW(';)')) AND `;--`.b IN (?,?)" ∧
        Quoting.run escapes .outside statement.sql.toList = .outside ∧
        Orderly 0 (outsideText .outside statement.sql.toList) := by
  generalize hscript : Script.delete .standard "`;--`" _ = script
  have hstatement : script.statement = .ok
      ⟨"DELETE FROM `;--` WHERE (`;--`.a = NOW(';)')) AND `;--`.b IN (?,?)",
        [.text "1;", .text "--"]⟩ := by
    rw [← hscript]
    cbv
  have hwritten : script.written = ["NOW(';)')"] := by
    rw [← hscript]
    cbv
  refine ⟨_, hstatement, rfl, ?_⟩
  apply Script.contained_statement _ hstatement
  rw [hwritten]
  decide

end SqlAssembler
