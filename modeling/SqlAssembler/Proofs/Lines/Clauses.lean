import Mathlib
import SqlAssembler.Proofs.Grammar.Names
import SqlAssembler.Proofs.Lines.Values
import SqlAssembler.Proofs.QueryFiles.Arrays
import SqlAssembler.Proofs.Scripts.Recorded

/-!
# Line breaks in clauses

The words of a statement hold no line break, nor do the keys of a path, the
labels that a caller writes and the counts. So a statement breaks exactly where
one of the texts does that it takes over whole: the names of identifiers, and
the calls among its projections and conditions.
-/

namespace SqlAssembler

open Text

/-!
## Identifiers
-/

namespace Ident

def names (ident : Ident) : List String :=
  ident.parts.map Part.name

theorem Part.breaks_sql (part : Part) :
    Breaks part.sql ↔ Breaks part.name := by
  rw [Part.sql]
  split
  · exact breaks_enclosed (by decide) part.name
  · rfl

theorem breaks_sql (ident : Ident) :
    Breaks ident.sql ↔ AnyBreaks ident.names := by
  rw [sql, breaks_intercalate (by decide), names, anyBreaks_map, anyBreaks_map]
  simp only [Part.breaks_sql]

theorem anyBreaks_names_of_name {ident : Ident} (h : Breaks ident.name) :
    AnyBreaks ident.names := by
  rw [name] at h
  cases hlast : ident.parts.getLast? with
  | none =>
      rw [hlast] at h
      exact absurd h (by decide)
  | some part =>
      rw [hlast] at h
      exact ⟨part.name, List.mem_map_of_mem (List.mem_of_getLast? hlast), h⟩

end Ident

/-!
## Columns
-/

theorem Text.not_breaks_of_nameChars {text : String}
    (h : ∀ c ∈ text.toList, isNameChar c = true) : ¬ Breaks text :=
  not_breaks_of_class (p := isNameChar) (by decide) h

namespace Column

def written : Column → List String
  | wildcard none => []
  | wildcard (some table) => table.names
  | plain ident _ => ident.names
  | json base _ _ => base.names
  | call text _ => [text]

variable {calls : String → Prop} {column : Column}

theorem not_breaks_keySql {key : String} (h : ¬ Breaks key) :
    ¬ Breaks (keySql key) := by
  intro hbreaks
  rcases mem_keySql hbreaks with hkey | hopen | hclose | hdot
  · exact h hkey
  · exact absurd hopen (by decide)
  · exact absurd hclose (by decide)
  · exact absurd hdot (by decide)

theorem not_breaks_pathSql {path : List String} (h : ¬ AnyBreaks path) :
    ¬ Breaks (pathSql path) := by
  rw [pathSql, breaks_append, breaks_join, anyBreaks_map, not_or]
  refine ⟨by decide, ?_⟩
  rintro ⟨key, hkey, hbreaks⟩
  exact not_breaks_keySql (fun hmem => h ⟨key, hkey, hmem⟩) hbreaks

theorem WellFormed.not_anyBreaks_path {base : Ident} {path : List String}
    {label : Option String} (h : (json base path label).WellFormed calls) :
    ¬ AnyBreaks path := by
  rintro ⟨key, hkey, hbreaks⟩
  exact not_breaks_of_nameChars (h.2.2 key hkey) hbreaks

theorem WellFormed.breaks_sql (h : column.WellFormed calls) :
    Breaks column.sql ↔ AnyBreaks column.written := by
  -- what stands between the names is closed text, which `decide` looks through
  cases column with
  | wildcard table =>
      cases table with
      | none =>
          simp +decide
      | some table =>
          simp +decide [sql, written, Ident.breaks_sql]
  | plain ident label => exact ident.breaks_sql
  | json base path label =>
      have hpath := not_breaks_pathSql h.not_anyBreaks_path
      simp +decide [sql, written, Ident.breaks_sql, hpath]
  | call text label => simp [sql, written]

theorem WellFormed.anyBreaks_of_writtenLabel (h : column.WellFormed calls)
    (hplain : ∀ label, column.ownLabel = some label →
      isPlainName label.toList = true)
    {label : String} (hlabel : column.writtenLabel = some label)
    (hbreaks : Breaks label) : AnyBreaks column.written := by
  have hown : column.ownLabel ≠ some label := by
    intro hown
    refine not_breaks_of_nameChars (fun c hc => ?_) hbreaks
    exact isNameChar_of_isPlainName (hplain label hown) hc
  cases column with
  | wildcard table => cases hlabel
  | plain ident own => exact absurd hlabel hown
  | call text own => exact absurd hlabel hown
  | json base path own =>
      cases own with
      | some own => exact absurd hlabel hown
      | none =>
          cases hlabel
          have hkeys : ¬ Breaks ("_".intercalate path) := by
            rw [breaks_intercalate (by decide)]
            exact h.not_anyBreaks_path
          have hname : Breaks base.name := by
            simpa +decide [hkeys] using hbreaks
          exact Ident.anyBreaks_names_of_name hname

theorem breaks_labelSql (label : String) :
    Breaks (labelSql label) ↔ Breaks label := by
  rw [labelSql]
  split
  · rfl
  · exact breaks_enclosed (by decide) label

theorem WellFormed.breaks_projectionSql (h : column.WellFormed calls)
    (hplain : ∀ label, column.ownLabel = some label →
      isPlainName label.toList = true) :
    Breaks column.projectionSql ↔ AnyBreaks column.written := by
  rw [projectionSql]
  split
  · rename_i label hlabel
    have hbreaks := h.anyBreaks_of_writtenLabel hplain hlabel
    simp +decide only [breaks_append, or_false, breaks_labelSql, h.breaks_sql]
    exact or_iff_left_of_imp hbreaks
  · exact h.breaks_sql

end Column

/-!
## Joins and orders
-/

namespace Join

def written (join : Join) : List String :=
  join.table.names ++ join.left.written ++ join.right.written

theorem WellFormed.breaks_sql {join : Join} (h : join.WellFormed) :
    Breaks join.sql ↔ AnyBreaks join.written := by
  have hkind : ¬ Breaks join.kind.sql := by
    cases join.kind <;> decide
  simp +decide [sql, written, Ident.breaks_sql, h.left.breaks_sql,
    h.right.breaks_sql, hkind, or_assoc]

end Join

theorem SortKey.breaks_sql {key : SortKey} {calls : String → Prop}
    (h : key.column.WellFormed calls) :
    Breaks key.sql ↔ AnyBreaks key.column.written := by
  have hdirection : ¬ Breaks key.direction.sql := by
    cases key.direction <;> decide
  simp +decide [sql, h.breaks_sql, hdirection]

/-!
## Conditions
-/

namespace Fragment

@[simp]
theorem not_breaks_nil : ¬ Breaks (sql []) := by
  decide

@[simp]
theorem breaks_cons (piece : Piece) (rest : Fragment) :
    Breaks (sql (piece :: rest)) ↔ Breaks piece.sql ∨ Breaks (sql rest) := by
  rw [sql_cons, breaks_append]

@[simp]
theorem breaks_text (text : String) :
    Breaks (Piece.text text).sql ↔ Breaks text :=
  Iff.rfl

@[simp]
theorem not_breaks_slot (value : Param) : ¬ Breaks (Piece.slot value).sql := by
  change ¬ Breaks "?"
  decide

theorem breaks_flatMap {α : Type} (items : List α) (f : α → Fragment) :
    Breaks (sql (items.flatMap f)) ↔ ∃ item ∈ items, Breaks (sql (f item)) := by
  induction items with
  | nil => simp
  | cons item rest ih => simp [ih]

end Fragment

namespace FunctionNames

theorem anyBreaks_embedded {functions : FunctionNames} {value : String}
    {embedded : Bool} (h : functions.embeds value = .ok embedded) :
    AnyBreaks (functions.embedded value) ↔ embedded = true ∧ Breaks value := by
  rw [FunctionNames.embedded, h]
  cases embedded <;> simp

end FunctionNames

namespace Filter

variable {column value : String} {embedded : Bool}

theorem breaks_comparison (kind : Comparison) :
    Breaks (comparison column value kind embedded).sql ↔
      Breaks column ∨ embedded = true ∧ Breaks value := by
  have hkind : ¬ Breaks kind.sql := by
    cases kind <;> decide
  simp only [comparison]
  split
  · rename_i hempty
    -- two quotes are written for it, and its own text does not break either
    rw [String.isEmpty_iff] at hempty
    simp +decide [hempty, hkind]
  · cases embedded <;> simp +decide [hkind]

theorem breaks_pattern (shape : Pattern) :
    Breaks (pattern column value shape embedded).sql ↔
      Breaks column ∨ embedded = true ∧ Breaks value := by
  have htarget : Breaks (if shape.caseless then column
      else "BINARY " ++ column) ↔ Breaks column := by
    split <;> simp +decide
  have hlike : ¬ Breaks (if shape.negated then " NOT LIKE " else " LIKE ") := by
    split <;> decide
  simp only [pattern]
  cases embedded <;> simp [htarget, hlike]

theorem not_breaks_slots (params : List Param) :
    ¬ Breaks (slots params).sql := by
  rw [sql_slots, breaks_intercalate (by decide)]
  rintro ⟨text, htext, hbreaks⟩
  rw [List.eq_of_mem_replicate htext] at hbreaks
  exact absurd hbreaks (by decide)

theorem breaks_membership (negated : Bool) :
    Breaks (membership column value negated embedded).sql ↔
      Breaks column ∨ embedded = true ∧ Breaks value := by
  have hlist : ¬ Breaks (if negated then " NOT IN (" else " IN (") := by
    split <;> decide
  have hslots := not_breaks_slots (elements value)
  simp only [membership]
  cases embedded <;> simp +decide [hlist, hslots]

theorem breaks_nullness {isNull : Bool} (h : isTrue? value = some isNull)
    (negated : Bool) :
    Breaks (nullness column (isNull != negated)).sql ↔
      Breaks column ∨ embedded = true ∧ Breaks value := by
  -- the value is one of two words, so it does not matter that it is not bound
  have hvalue : ¬ Breaks value := by
    rw [isTrue?] at h
    split at h
    · rename_i htrue
      rw [htrue]
      decide
    · split at h
      · rename_i hfalse
        rw [hfalse]
        decide
      · cases h
  have htest : ¬ Breaks
      (if isNull != negated then " IS NULL" else " IS NOT NULL") := by
    split <;> decide
  simp only [nullness, Fragment.breaks_cons, Fragment.breaks_text,
    breaks_append, htest, Fragment.not_breaks_nil, hvalue, and_false, or_false]

theorem breaks_condition {functions : FunctionNames} {operator : Operator}
    {fragment : Fragment}
    (h : condition functions column operator value = .ok fragment) :
    Breaks fragment.sql ↔
      Breaks column ∨ AnyBreaks (functions.embedded value) := by
  rw [condition] at h
  split at h
  · cases h
  · rename_i embedded hembeds
    rw [FunctionNames.anyBreaks_embedded hembeds]
    cases operator with
    | comparison kind =>
        cases h
        exact breaks_comparison kind
    | pattern shape =>
        cases h
        exact breaks_pattern shape
    | membership negated =>
        cases h
        exact breaks_membership negated
    | nullness negated =>
        dsimp only at h
        split at h
        · rename_i hword
          cases h
          exact breaks_nullness hword negated
        · cases h

end Filter

namespace Conditions

theorem breaks_nodePieces (node : Node) :
    Breaks (Fragment.sql (nodePieces node)) ↔
      ∃ connector fragment, node = .condition connector fragment ∧
        Breaks fragment.sql := by
  have hconnector : ∀ connector,
      ¬ Breaks (Fragment.sql (connectorPieces connector)) := by
    intro connector
    rcases connector with _ | _ | _ <;> decide
  cases node <;> simp +decide [nodePieces, hconnector]

theorem breaks_render {conditions : Conditions} {fragment : Fragment}
    (h : conditions.render = .ok fragment) :
    Breaks fragment.sql ↔
      AnyBreaks (conditions.fragments.map Fragment.sql) := by
  have hnodes : Breaks fragment.sql ↔
      Breaks (Fragment.sql (conditions.nodes.flatMap nodePieces)) := by
    rcases render_eq_ok_iff.mp h with ⟨_, rfl⟩
    split
    · rename_i hempty
      rw [List.isEmpty_iff.mp hempty]
      rfl
    · simp +decide
  rw [hnodes, Fragment.breaks_flatMap, anyBreaks_map]
  simp only [breaks_nodePieces, mem_fragments_iff]
  constructor
  · rintro ⟨_, hnode, connector, fragment, rfl, hbreaks⟩
    exact ⟨fragment, ⟨connector, hnode⟩, hbreaks⟩
  · rintro ⟨fragment, ⟨connector, hnode⟩, hbreaks⟩
    exact ⟨_, hnode, connector, fragment, rfl, hbreaks⟩

end Conditions

/-!
## Aggregates
-/

namespace Aggregate

variable {aggregate : Aggregate} {target : String}

theorem eq_sql_of_target {column : Column}
    (h : aggregate.target column = .ok target) : target = column.sql := by
  unfold Aggregate.target at h
  split at h
  · split at h
    · cases h
      rfl
    · cases h
  · cases h
  · cases h
  · cases h
    rfl
  · cases h
    rfl

theorem breaks_sql (aggregate : Aggregate) (target : String) :
    Breaks (aggregate.sql target) ↔ Breaks target := by
  have hfunction : ¬ Breaks aggregate.function.sql := by
    cases aggregate.function <;> decide
  have hdistinct :
      ¬ Breaks (if aggregate.distinct then "DISTINCT " else "") := by
    split <;> decide
  simp +decide [sql, hfunction, hdistinct]

end Aggregate

/-!
## Selections
-/

namespace Selection

variable {functions : FunctionNames} {calls : String → Prop}
  {selection : Selection} {fragment : Fragment}

theorem breaks_commaList (items : List String) :
    Breaks (commaList items) ↔ AnyBreaks items :=
  breaks_intercalate (by decide) items

theorem not_breaks_limitText (selection : Selection) :
    ¬ Breaks selection.limitText := by
  rw [limitText]
  split
  · rw [breaks_append, not_or]
    exact ⟨by decide, not_breaks_toString_nat _⟩
  · decide
  · decide

theorem not_breaks_offsetText (selection : Selection) :
    ¬ Breaks selection.offsetText := by
  rw [offsetText]
  split
  · rw [breaks_append, not_or]
    exact ⟨by decide, not_breaks_toString_nat _⟩
  · decide

def sourceTexts (selection : Selection) : List String :=
  selection.table.toList.flatMap Ident.names ++
    selection.joins.flatMap Join.written ++
    selection.conditions.fragments.map Fragment.sql ++
    selection.groupBy.flatMap Column.written

def orderTexts (selection : Selection) : List String :=
  selection.orderBy.flatMap fun key => key.column.written

theorem WellFormed.breaks_groupText (h : selection.WellFormed functions calls) :
    Breaks selection.groupText ↔
      AnyBreaks (selection.groupBy.flatMap Column.written) := by
  have hgroups := anyBreaks_map_iff_flatMap fun column hcolumn =>
    (h.groupBy column hcolumn).breaks_sql
  rw [groupText, ← hgroups, ← breaks_commaList]
  cases selection.groupBy <;> simp +decide [commaList]

theorem WellFormed.breaks_orderText (h : selection.WellFormed functions calls) :
    Breaks selection.orderText ↔ AnyBreaks selection.orderTexts := by
  have horders := anyBreaks_map_iff_flatMap fun key hkey =>
    SortKey.breaks_sql (h.orderBy key hkey)
  rw [orderText, orderTexts, ← horders, ← breaks_commaList]
  cases selection.orderBy <;> simp +decide [commaList]

theorem WellFormed.breaks_columnsText
    (h : selection.WellFormed functions calls)
    (hplain : ∀ column ∈ selection.columns, ∀ label,
      column.ownLabel = some label → isPlainName label.toList = true) :
    Breaks selection.columnsText ↔
      AnyBreaks (selection.columns.flatMap Column.written) := by
  have hcolumns := anyBreaks_map_iff_flatMap fun column hcolumn =>
    (h.columns column hcolumn).breaks_projectionSql (hplain column hcolumn)
  rw [columnsText, ← hcolumns, ← breaks_commaList]
  cases selection.columns <;> simp +decide [commaList]

theorem WellFormed.breaks_source (h : selection.WellFormed functions calls)
    (hsource : selection.source = .ok fragment) :
    Breaks fragment.sql ↔ AnyBreaks selection.sourceTexts := by
  rcases sql_source hsource with ⟨owner, conditions, htable, hrender, hsql⟩
  have hjoins := anyBreaks_map_iff_flatMap fun join hjoin =>
    (h.joins join hjoin).breaks_sql
  rw [hsql, sourceTexts, htable]
  simp +decide [Ident.breaks_sql, hjoins, Conditions.breaks_render hrender,
    h.breaks_groupText, or_assoc]

theorem WellFormed.breaks_rows (h : selection.WellFormed functions calls)
    (hplain : ∀ column ∈ selection.columns, ∀ label,
      column.ownLabel = some label → isPlainName label.toList = true)
    (hrows : selection.rows = .ok fragment) :
    Breaks fragment.sql ↔
      AnyBreaks (selection.columns.flatMap Column.written) ∨
        AnyBreaks selection.sourceTexts ∨ AnyBreaks selection.orderTexts := by
  rcases rows_eq_ok hrows with ⟨source, hsource, hsql⟩
  have hdistinct : ¬ Breaks selection.distinctText := by
    rw [distinctText]
    split <;> decide
  rw [hsql]
  simp +decide [hdistinct, h.breaks_columnsText hplain,
    h.breaks_source hsource, h.breaks_orderText, not_breaks_limitText,
    not_breaks_offsetText, or_assoc]

theorem WellFormed.breaks_aggregated (h : selection.WellFormed functions calls)
    {aggregate : Aggregate} {column : Column}
    (hcolumn : column.WellFormed (fun _ => False))
    (haggregated : selection.aggregated aggregate column = .ok fragment) :
    Breaks fragment.sql ↔
      AnyBreaks column.written ∨ AnyBreaks selection.sourceTexts ∨
        selection.groupBy ≠ [] ∧ AnyBreaks selection.orderTexts := by
  rcases aggregated_eq_ok haggregated with
    ⟨target, source, htarget, hsource, hsql⟩
  have htail : Breaks
      (if selection.groupBy.isEmpty then "" else selection.orderText) ↔
        selection.groupBy ≠ [] ∧ AnyBreaks selection.orderTexts := by
    rw [← h.breaks_orderText]
    cases selection.groupBy <;> simp +decide
  rw [hsql, Aggregate.eq_sql_of_target htarget]
  simp +decide only [breaks_append, false_or, Aggregate.breaks_sql,
    hcolumn.breaks_sql, h.breaks_source hsource, htail, or_assoc]

end Selection
end SqlAssembler
