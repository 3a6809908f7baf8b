import SqlAssembler.Proofs.Calls.Tails
import SqlAssembler.Proofs.Containment.Conditions
import SqlAssembler.Proofs.Grammar.PlainColumns
import SqlAssembler.Proofs.Scripts.Recorded
import SqlAssembler.Proofs.Scripts.Written

/-!
# Positions of embedded values

An embedded value stands alone in its position: as an operand, as what a column
is set to, as a projection, or between two commas of a list of values. So it
adds to the statement what stands on its own level, which is one call if nothing
follows the call. Only commas that follow it can make a list of values longer
than the list of columns.
-/

namespace SqlAssembler
namespace FunctionNames

open Place

def entries (text : String) : Nat :=
  (levelText text).toList.count ',' + 1

def Closed (text : String) : Prop :=
  start.read? text.toList = some start

instance : DecidablePred Closed := fun text =>
  inferInstanceAs (Decidable (start.read? text.toList = some start))

variable {functions : FunctionNames} {left right text value name tail : String}

/-!
## Entries of a list
-/

theorem closed_of_embeds (h : functions.embeds value = .ok true) :
    Closed value :=
  have hscan : scanCall start.quoting start.depth value.toList = none :=
    callFault?_of_embeds h
  read?_of_scanCall hscan

theorem Closed.levelText_append (h : Closed left) (right : String) :
    levelText (left ++ right) = levelText left ++ levelText right := by
  apply String.toList_inj.mp
  simp only [levelText, String.toList_append, String.toList_ofList]
  exact level_append h

theorem Closed.append (hleft : Closed left) (hright : Closed right) :
    Closed (left ++ right) := by
  rw [Closed, String.toList_append, read?_append, hleft]
  exact hright

theorem Closed.entries_append_comma (h : Closed left) (right : String) :
    entries (left ++ ", " ++ right) = entries left + entries right := by
  have hcomma : Closed ", " := by decide
  have hlevel : levelText ", " = ", " := by decide
  rw [entries, (h.append hcomma).levelText_append, h.levelText_append, hlevel]
  simp only [String.toList_append, List.count_append, entries]
  have hcount : ", ".toList.count ',' = 1 := by decide
  omega

theorem entries_commaList {texts : List String} (hne : texts ≠ [])
    (h : ∀ text ∈ texts, Closed text) :
    entries (Selection.commaList texts) = (texts.map entries).sum := by
  induction texts with
  | nil => exact absurd rfl hne
  | cons text rest ih =>
      by_cases hempty : rest = []
      · subst hempty
        rw [Selection.commaList, String.intercalate_singleton]
        simp
      · have hrest := ih hempty fun other hother =>
          h other (List.mem_cons_of_mem text hother)
        rw [Selection.commaList, String.intercalate_cons_of_ne_nil hempty,
          (h text List.mem_cons_self).entries_append_comma]
        rw [Selection.commaList] at hrest
        rw [hrest, List.map_cons, List.sum_cons]

theorem sum_entries_eq_length_iff (texts : List String) :
    (texts.map entries).sum = texts.length ↔
      ∀ text ∈ texts, entries text = 1 := by
  induction texts with
  | nil => simp
  | cons text rest ih =>
      have hone : 1 ≤ entries text := Nat.le_add_left 1 _
      have hleast : rest.length ≤ (rest.map entries).sum := by
        have hall : ∀ count ∈ rest.map entries, 1 ≤ count := by
          intro count hcount
          rcases List.mem_map.mp hcount with ⟨other, _, rfl⟩
          exact Nat.le_add_left 1 _
        simpa using List.length_le_sum_of_one_le _ hall
      rw [List.map_cons, List.sum_cons, List.length_cons, List.forall_mem_cons,
        ← ih]
      omega

theorem Splits.entries_eq (h : functions.Splits value name tail)
    (hname : ',' ∉ name.toList) : entries value = entries tail := by
  rw [entries, h.level]
  simp only [String.toList_append, List.count_append,
    List.count_eq_zero_of_not_mem hname, entries]
  have hcount : "()".toList.count ',' = 0 := by decide
  omega

end FunctionNames

/-!
## Lists of values
-/

open FunctionNames (Splits Closed IsOneCall entries levelText)

variable {settings : Settings} {statement : Statement}

theorem InsertBuilder.exists_values {table : String} {calls : List AssignCall}
    (h : ((start settings table).recordAll calls).statement = .ok statement) :
    ∃ owner columns values,
      statement.sql = "INSERT INTO " ++ owner ++ " (" ++
        Selection.commaList columns ++ ") VALUES (" ++
        Selection.commaList values ++ ")" ∧
      columns.length = values.length ∧ values ≠ [] ∧
      ∀ value ∈ values,
        value = "?" ∨ settings.functions.embeds value = .ok true := by
  have hwell :
      ((start settings table).recordAll calls).recording.parts.WellFormed
        fun text => settings.functions.embeds text = .ok true := by
    apply parts_wellFormed
    intro text htext
    rcases List.mem_flatMap.mp htext with ⟨call, _, hcall⟩
    exact AssignCall.embeds_of_mem_embedded hcall
  rcases bind_eq_ok_iff.mp h with ⟨insertion, hchecked, hrest⟩
  rcases bind_eq_ok_iff.mp hrest with ⟨fragment, hfragment, hstatement⟩
  cases hstatement
  rw [(Recording.checked_eq_ok_iff.mp hchecked).2] at hwell
  rcases Insertion.fragment_eq_ok_iff.mp hfragment with
    ⟨owner, _, hassigned, rfl⟩
  refine ⟨owner.sql, insertion.assignments.map fun assignment =>
      assignment.column.sql,
    insertion.assignments.map fun assignment => assignment.value.piece.sql,
    ?_, ?_, ?_, ?_⟩
  · have hvalues : ∀ assignment : Assignment,
        Fragment.sql [assignment.value.piece] = assignment.value.piece.sql :=
      fun assignment => by simp [Fragment.sql]
    rw [Fragment.statement, Fragment.sql_append, Fragment.sql_cons,
      Fragment.sql_separated, List.map_map, Fragment.sql_text]
    simp only [Function.comp_def, hvalues, Piece.sql, Selection.commaList]
  · rw [List.length_map, List.length_map]
  · simpa using hassigned
  · intro value hvalue
    rcases List.mem_map.mp hvalue with ⟨assignment, hassignment, rfl⟩
    have hcall := (hwell.assignments assignment hassignment).value
    cases hassigned : assignment.value with
    | bound bound => exact .inl rfl
    | call text =>
        rw [hassigned] at hcall
        exact .inr hcall

/-!
## All positions
-/

def Update.assignedText (assignments : List Assignment) : String :=
  Fragment.sql (Fragment.separated ", " (assignments.map assignmentFragment))

/-- In every position the value is written as it is, next to nothing that
depends on it: after a comparison or LIKE, between the parentheses of IN, as one
of the assignments, and as one of the projections. -/
structure StandsAlone (functions : FunctionNames) (value : String) : Prop where
  operand : ∀ column kind,
    Filter.condition functions column (.comparison kind) value =
      .ok [.text (column ++ " " ++ kind.sql ++ " " ++ value)]
  pattern : ∀ column shape,
    Filter.condition functions column (.pattern shape) value =
      .ok [.text ((if shape.caseless then column else "BINARY " ++ column) ++
        (if shape.negated then " NOT LIKE " else " LIKE ") ++ value)]
  element : ∀ column negated,
    Filter.condition functions column (.membership negated) value =
      .ok [.text (column ++ (if negated then " NOT IN (" else " IN (") ++
        value ++ ")")]
  assigned : ∀ before column after,
    Update.assignedText (before ++ ⟨column, .call value⟩ :: after) =
      Selection.commaList
        (before.map (fun other => (Update.assignmentFragment other).sql) ++
          (column.sql ++ " = " ++ value) ::
            after.map fun other => (Update.assignmentFragment other).sql)
  projected : ∀ (selection : Selection) before label after,
    selection.columns = before ++ .call value label :: after →
      selection.columnsText =
        Selection.commaList (before.map Column.projectionSql ++
          (value ++ (label.map fun name => " AS " ++ Column.labelSql name).getD
            "") :: after.map Column.projectionSql)

theorem standsAlone_of_embeds {functions : FunctionNames} {value : String}
    (h : functions.embeds value = .ok true) : StandsAlone functions value := by
  have hne : value.isEmpty = false := by
    cases hempty : value.isEmpty with
    | false => rfl
    | true =>
        rw [String.isEmpty_iff.mp hempty] at h
        cases h
  refine ⟨?_, ?_, ?_, ?_, ?_⟩
  · intro column kind
    rw [Filter.condition, h]
    simp only [Filter.comparison, hne, Bool.false_eq_true, if_false, if_true]
  · intro column shape
    rw [Filter.condition, h]
    rfl
  · intro column negated
    rw [Filter.condition, h]
    rfl
  · intro before column after
    have htext : (Update.assignmentFragment ⟨column, .call value⟩).sql =
        column.sql ++ " = " ++ value := by
      rw [Update.assignmentFragment, Fragment.sql_cons, AssignedValue.piece,
        Fragment.sql_text]
      rfl
    rw [Update.assignedText, Fragment.sql_separated, Selection.commaList]
    simp only [List.map_map, List.map_append, List.map_cons,
      Function.comp_def, htext]
  · intro selection before label after hcolumns
    have htext : (Column.call value label).projectionSql =
        value ++ (label.map fun name => " AS " ++ Column.labelSql name).getD
          "" := by
      cases label with
      | none => simp [Column.projectionSql, Column.writtenLabel, Column.sql]
      | some name =>
          simp [Column.projectionSql, Column.writtenLabel, Column.sql,
            String.append_assoc]
    have hsome : selection.columns.isEmpty = false := by
      rw [hcolumns]
      simp
    rw [Selection.columnsText, hsome, hcolumns, List.map_append, List.map_cons,
      htext]
    rfl

namespace FunctionNames

theorem isFunctionName_of_mem_builtin :
    ∀ name ∈ builtin.names, SettingsFile.isFunctionName name = true := by
  intro name hname
  rcases mem_insertAll.mp hname with hempty | hname
  · cases hempty
  · have hnames : ∀ name ∈ builtinNames,
        SettingsFile.isFunctionName name = true := by decide
    exact hnames name hname

/-- An embedded value is a call of an allowed function and what follows the
parenthesis that closes it, closed in itself. The value is one call if and only
if nothing follows, and then nothing but the call is on its level. In a list of
values there are as many entries as columns if and only if no value has a comma
on its level, and so if every embedded value is one call. -/
theorem embedded_call_and_tail (settings : Settings)
    (hnames : ∀ name ∈ settings.functions.names,
      SettingsFile.isFunctionName name = true) :
    (∀ value, settings.functions.embeds value = .ok true →
      StandsAlone settings.functions value ∧
      ∃ name tail, settings.functions.Splits value name tail ∧
        (IsOneCall value ↔ tail = "") ∧
        (IsOneCall value ↔ levelText value = name ++ "()") ∧
        entries value = entries tail) ∧
    ∀ table calls statement,
      ((InsertBuilder.start settings table).recordAll calls).statement =
          .ok statement →
        ∃ owner columns values,
          statement.sql = "INSERT INTO " ++ owner ++ " (" ++
            Selection.commaList columns ++ ") VALUES (" ++
            Selection.commaList values ++ ")" ∧
          columns.length = values.length ∧
          (∀ value ∈ values,
            value = "?" ∨ settings.functions.embeds value = .ok true) ∧
          (entries (Selection.commaList values) = columns.length ↔
            ∀ value ∈ values, entries value = 1) ∧
          ((∀ value ∈ values, value = "?" ∨ IsOneCall value) →
            entries (Selection.commaList values) = columns.length) := by
  have hsplits : ∀ value, settings.functions.embeds value = .ok true →
      ∃ name tail, settings.functions.Splits value name tail ∧
        entries value = entries tail := by
    intro value hembeds
    rcases exists_splits_of_embeds hnames hembeds with ⟨name, tail, hsplits⟩
    refine ⟨name, tail, hsplits, hsplits.entries_eq ?_⟩
    intro hcomma
    have hupper := upperCase_of_isFunctionName (hnames name hsplits.allowed)
    exact absurd (hupper ',' hcomma) (by decide)
  refine ⟨?_, ?_⟩
  · intro value hembeds
    rcases hsplits value hembeds with ⟨name, tail, hsplit, hentries⟩
    exact ⟨standsAlone_of_embeds hembeds, name, tail, hsplit,
      hsplit.isOneCall_iff, hsplit.isOneCall_iff_level, hentries⟩
  · intro table calls statement hstatement
    rcases InsertBuilder.exists_values hstatement with
      ⟨owner, columns, values, hsql, hlength, hne, hvalues⟩
    have hclosed : ∀ value ∈ values, Closed value := by
      intro value hvalue
      rcases hvalues value hvalue with rfl | hembeds
      · decide
      · exact closed_of_embeds hembeds
    have hiff : entries (Selection.commaList values) = columns.length ↔
        ∀ value ∈ values, entries value = 1 := by
      rw [entries_commaList hne hclosed, hlength, sum_entries_eq_length_iff]
    refine ⟨owner, columns, values, hsql, hlength, hvalues, hiff, ?_⟩
    intro hcalls
    apply hiff.mpr
    intro value hvalue
    rcases hvalues value hvalue with rfl | hembeds
    · decide
    · rcases hsplits value hembeds with ⟨name, tail, hsplit, hentries⟩
      rcases hcalls value hvalue with rfl | hone
      · decide
      · rw [hentries, hsplit.isOneCall_iff.mp hone]
        decide

/-- Commas and parentheses below the level of the call do not count. -/
theorem embedded_concat :
    (∀ name ∈ Settings.standard.functions.names,
      SettingsFile.isFunctionName name = true) ∧
    builtin.embeds "CONCAT(',(', a)" = .ok true ∧
    IsOneCall "CONCAT(',(', a)" ∧ entries "CONCAT(',(', a)" = 1 ∧
    ∃ name, levelText "CONCAT(',(', a)" = name ++ "()" := by
  have hembeds : builtin.embeds "CONCAT(',(', a)" = .ok true := by cbv
  have hone : IsOneCall "CONCAT(',(', a)" := by decide
  rcases embedded_call_and_tail .standard isFunctionName_of_mem_builtin with
    ⟨hvalues, _⟩
  rcases (hvalues _ hembeds).2 with ⟨name, tail, _, htail, hlevel, hentries⟩
  rw [htail.mp hone] at hentries
  exact ⟨isFunctionName_of_mem_builtin, hembeds, hone, hentries, name,
    hlevel.mp hone⟩

/-- A call with a second entry behind it is embedded like a call alone. -/
theorem embeds_more_than_call :
    (∀ name ∈ builtin.names, SettingsFile.isFunctionName name = true) ∧
    builtin.embeds "NOW(), 1" = .ok true ∧ ¬ IsOneCall "NOW(), 1" ∧
    ((InsertBuilder.start .standard "t").recordAll
        [.setFunction "a" "NOW(), 1"]).statement =
      .ok ⟨"INSERT INTO t (a) VALUES (NOW(), 1)", []⟩ ∧
    entries "NOW(), 1" = 2 := by
  refine ⟨isFunctionName_of_mem_builtin, by cbv, by decide, by cbv, by decide⟩

end FunctionNames
end SqlAssembler
