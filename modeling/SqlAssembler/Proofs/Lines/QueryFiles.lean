import Mathlib
import SqlAssembler.Proofs.Lines.Clauses
import SqlAssembler.Proofs.QueryFiles.Conditions
import SqlAssembler.Proofs.Tables.Owners

/-!
# Line breaks in query files

An accepted run records what its entries are read as. So the statement of a
query file breaks exactly where one of the texts does that the entries of the
file bring into it.
-/

namespace SqlAssembler

open Recording Text

/-!
## Entries that were recorded
-/

def JoinEntry.read (settings : Settings) (owner : Ident) (entry : JoinEntry) :
    Except Error Join := do
  let kind ← entry.kind
  Join.parse settings (some owner) kind entry.table entry.left entry.right

structure Selection.ReadFrom (settings : Settings) (owner : Ident)
    (calls : List SelectCall) (selection : Selection) : Prop where
  table : selection.table = some owner
  columns : List.Forall₂
    (fun raw column =>
      Column.parseProjection settings (some owner) raw = .ok column)
    (calls.flatMap SelectCall.projections) selection.columns
  joins : List.Forall₂ (fun entry join => entry.read settings owner = .ok join)
    (calls.flatMap SelectCall.joins) selection.joins
  conditions :
    (calls.flatMap SelectCall.filters).filterMap
        (FilterCall.condition? settings (some owner)) =
      selection.conditions.fragments.map .ok
  groupBy : List.Forall₂
    (fun raw column => Column.parse settings (some owner) raw = .ok column)
    (calls.flatMap SelectCall.groupings) selection.groupBy
  orderBy : List.Forall₂
    (fun raw key => SortKey.parse settings (some owner) raw = .ok key)
    (calls.flatMap SelectCall.orderings) selection.orderBy

theorem SelectBuilder.readFrom_of_accepted {settings : Settings}
    {table : String} {calls : List SelectCall}
    (h : ((start settings table).recordAll calls).recording.failure = none) :
    ∃ owner, Ident.parse (SelectCall.lastTable table calls) = .ok owner ∧
      ((start settings table).recordAll calls).selection.ReadFrom settings
        owner calls := by
  rcases recordAll_of_accepted h with
    ⟨owner, howner, _, hselection, hrefusals⟩
  rcases conditions_of_accepted h with ⟨other, hother, hconditions⟩
  cases howner.symm.trans hother
  refine ⟨owner, howner, ?_⟩
  -- clauses are recorded from the other calls, but table calls hold no entries
  have hentries := fun {ι : Type} (entries : SelectCall → List ι)
    (hset : ∀ name, entries (.setTable name) = []) =>
      SelectCall.flatMap_withoutTables entries hset calls
  simp only [Selection.clauseRefusals, List.append_eq_nil_iff,
    Selection.clauseEdits_eq] at hrefusals
  rcases hrefusals with ⟨⟨⟨⟨hjoins, hcolumns⟩, _⟩, hgroups⟩, horders⟩
  rw [hselection] at hconditions ⊢
  unfold Selection.extended at hconditions ⊢
  simp only [Selection.clauseEdits_eq] at hconditions ⊢
  constructor
  · rfl
  · rw [← hentries SelectCall.projections fun _ => rfl]
    refine forall₂_recorded ?_ hcolumns
    exact fun raw columns after => Selection.projectInto_eq_ok
  · rw [← hentries SelectCall.joins fun _ => rfl]
    refine forall₂_recorded ?_ hjoins
    intro entry joins after hafter
    rcases bind_eq_ok_iff.mp hafter with ⟨kind, hkind, hmap⟩
    rcases map_eq_ok_iff.mp hmap with ⟨join, hjoin, rfl⟩
    exact ⟨join, bind_eq_ok_iff.mpr ⟨kind, hkind, hjoin⟩, rfl⟩
  · exact hconditions
  · rw [← hentries SelectCall.groupings fun _ => rfl]
    refine forall₂_recorded ?_ hgroups
    exact fun raw columns after => map_eq_ok_iff.mp
  · rw [← hentries SelectCall.orderings fun _ => rfl]
    refine forall₂_recorded ?_ horders
    exact fun raw keys after => map_eq_ok_iff.mp

theorem SelectBuilder.wellFormed_selection (settings : Settings)
    (table : String) (calls : List SelectCall) :
    ((start settings table).recordAll calls).selection.WellFormed
      settings.functions fun _ => True :=
  parts_wellFormed fun _ _ => trivial

/-!
## Texts that entries bring in
-/

/-- What is taken over from a text that a reader accepts. -/
def taken {ε α : Type} (texts : α → List String) : Except ε α → List String
  | .ok value => texts value
  | .error _ => []

theorem flatMap_taken {ε ι α : Type} {read : ι → Except ε α}
    {entries : List ι} {items : List α} (texts : α → List String)
    (h : List.Forall₂ (fun entry item => read entry = .ok item) entries
      items) :
    entries.flatMap (fun entry => taken texts (read entry)) =
      items.flatMap texts := by
  induction h with
  | nil => rfl
  | cons hitem _ ih =>
      rw [List.flatMap_cons, List.flatMap_cons, ih, hitem, taken]

namespace Column

variable (settings : Settings) (owner : Ident) (raw : String)

def projectedTexts : List String :=
  taken written (parseProjection settings (some owner) raw)

def comparedTexts : List String :=
  taken written (parse settings (some owner) raw)

end Column

def SortKey.texts (settings : Settings) (owner : Ident) (raw : String) :
    List String :=
  taken (fun key => key.column.written) (parse settings (some owner) raw)

def JoinEntry.texts (settings : Settings) (owner : Ident) (entry : JoinEntry) :
    List String :=
  taken Join.written (entry.read settings owner)

namespace FilterCall

def texts (settings : Settings) (owner : Ident) : FilterCall → List String
  | filter _ column _ value | filterBy column _ value =>
      Column.comparedTexts settings owner column ++
        settings.functions.embedded value
  | openGroup _ | closeGroup => []

variable {settings : Settings} {owner : Ident}

theorem breaks_compared {column value : String} {operator : Operator}
    {fragment : Fragment} (howner : owner.WellFormed)
    (h : compared settings (some owner) column operator value =
      .ok fragment) :
    Breaks fragment.sql ↔
      AnyBreaks (Column.comparedTexts settings owner column ++
        settings.functions.embedded value) := by
  rcases bind_eq_ok_iff.mp h with ⟨target, htarget, hcondition⟩
  have hwellFormed := Column.wellFormed_of_parse
    (Ident.wellFormed_of_mem_some howner) htarget
  rw [Filter.breaks_condition hcondition, hwellFormed.breaks_sql,
    anyBreaks_append, Column.comparedTexts, htarget, taken]

theorem breaks_condition? {call : FilterCall} {fragment : Fragment}
    (howner : owner.WellFormed)
    (h : call.condition? settings (some owner) = some (.ok fragment)) :
    Breaks fragment.sql ↔ AnyBreaks (call.texts settings owner) := by
  cases call with
  | filter connector column operator value =>
      rcases bind_eq_ok_iff.mp (Option.some.inj h) with ⟨parsed, _, hcompared⟩
      exact breaks_compared howner hcompared
  | filterBy column operator value =>
      exact breaks_compared howner (Option.some.inj h)
  | openGroup connector => cases h
  | closeGroup => cases h

theorem anyBreaks_fragments {calls : List FilterCall}
    {fragments : List Fragment} (howner : owner.WellFormed)
    (h : calls.filterMap (condition? settings (some owner)) =
      fragments.map .ok) :
    AnyBreaks (fragments.map Fragment.sql) ↔
      AnyBreaks (calls.flatMap (texts settings owner)) := by
  induction calls generalizing fragments with
  | nil =>
      rw [List.map_eq_nil_iff.mp h.symm]
      rfl
  | cons call rest ih =>
      rw [List.filterMap_cons] at h
      split at h
      · -- a call that only opens or closes a group brings nothing in
        rename_i hnone
        have htexts : call.texts settings owner = [] := by
          cases call with
          | openGroup connector => rfl
          | closeGroup => rfl
          | filter connector column operator value => cases hnone
          | filterBy column operator value => cases hnone
        rw [List.flatMap_cons, htexts, List.nil_append]
        exact ih h
      · rename_i asked hasked
        rcases List.map_eq_cons_iff.mp h.symm with
          ⟨fragment, others, rfl, rfl, hothers⟩
        rw [List.map_cons, List.flatMap_cons, anyBreaks_cons, anyBreaks_append,
          breaks_condition? howner hasked, ih hothers.symm]

end FilterCall

/-!
## Texts of a query file
-/

def JoinFields.entry (fields : JoinFields) : JoinEntry :=
  ⟨JoinKind.parse fields.kind, fields.table, fields.left, fields.right⟩

namespace QueryFile

variable {file : QueryFile} {settings : Settings} {calls : List SelectCall}

def sourceTexts (file : QueryFile) (settings : Settings) (owner : Ident) :
    List String :=
  owner.names ++
    file.joins.flatMap (fun fields => fields.entry.texts settings owner) ++
    file.conditions.flatMap (fun entry =>
      taken (FilterCall.texts settings owner) (conditionCall entry)) ++
    file.groupBy.flatMap (Column.comparedTexts settings owner)

def targetTexts (file : QueryFile) (settings : Settings) (owner : Ident) :
    Option (String × String) → List String
  | none => file.columns.flatMap (Column.projectedTexts settings owner)
  | some (_, column) =>
      taken Column.written
        (Column.parseAggregateTarget settings (some owner) column)

def orderTexts (file : QueryFile) (settings : Settings) (owner : Ident)
    (aggregate : Option (String × String)) : List String :=
  if aggregate.isSome ∧ file.groupBy = [] then []
  else file.orderBy.flatMap (SortKey.texts settings owner)

/-- The names and calls of a query file that its statement takes over. -/
def written (file : QueryFile) (settings : Settings)
    (aggregate : Option (String × String)) : List String :=
  taken
    (fun owner =>
      file.targetTexts settings owner aggregate ++
        file.sourceTexts settings owner ++
        file.orderTexts settings owner aggregate)
    (Ident.parse file.table)

theorem flatMap_calls {ι : Type} (h : file.calls = .ok calls)
    {entries : SelectCall → List ι} (hdistinct : entries .distinct = [])
    (hfilter : ∀ call, entries (.filter call) = [])
    (hlimit : ∀ count, entries (.limit count) = [])
    (hoffset : ∀ count, entries (.offset count) = []) :
    calls.flatMap entries =
      entries (.select file.columns) ++
        file.joins.flatMap (fun fields => entries
          (.join fields.kind fields.table fields.left fields.right)) ++
        entries (.groupBy file.groupBy) ++
        entries (.orderBy file.orderBy) := by
  rcases bind_eq_ok_iff.mp h with ⟨conditions, _, hpure⟩
  cases hpure
  have hnone : ∀ {κ : Type} (items : List κ),
      (items.flatMap fun _ => ([] : List ι)) = [] := by
    intro κ items
    exact List.flatMap_eq_nil_iff.mpr fun _ _ => rfl
  cases file.distinct <;>
    simp [List.flatMap_map, hdistinct, hfilter, hlimit, hoffset, hnone]

theorem projections_calls (h : file.calls = .ok calls) :
    calls.flatMap SelectCall.projections = file.columns := by
  rw [flatMap_calls h rfl (fun _ => rfl) (fun _ => rfl) fun _ => rfl]
  simp

theorem joins_calls (h : file.calls = .ok calls) :
    calls.flatMap SelectCall.joins = file.joins.map JoinFields.entry := by
  rw [flatMap_calls h rfl (fun _ => rfl) (fun _ => rfl) fun _ => rfl]
  simp [JoinFields.entry, ← List.map_eq_flatMap]

theorem groupings_calls (h : file.calls = .ok calls) :
    calls.flatMap SelectCall.groupings = file.groupBy := by
  rw [flatMap_calls h rfl (fun _ => rfl) (fun _ => rfl) fun _ => rfl]
  simp

theorem orderings_calls (h : file.calls = .ok calls) :
    calls.flatMap SelectCall.orderings = file.orderBy := by
  rw [flatMap_calls h rfl (fun _ => rfl) (fun _ => rfl) fun _ => rfl]
  simp

theorem forall₂_conditionCall (h : file.calls = .ok calls) :
    List.Forall₂ (fun entry call => conditionCall entry = .ok call)
      file.conditions (calls.flatMap SelectCall.filters) := by
  have hmap := mapM_eq_ok_iff.mp (calls_eq_ok h).2
  rw [← List.forall₂_eq_eq_eq, List.forall₂_map_left_iff,
    List.forall₂_map_right_iff] at hmap
  exact hmap

end QueryFile

/-!
## What was recorded of a file
-/

namespace Selection.ReadFrom

variable {file : QueryFile} {settings : Settings} {calls : List SelectCall}
  {owner : Ident} {selection : Selection}

theorem written_columns (h : selection.ReadFrom settings owner calls)
    (hcalls : file.calls = .ok calls) :
    selection.columns.flatMap Column.written =
      file.columns.flatMap (Column.projectedTexts settings owner) := by
  rw [← QueryFile.projections_calls hcalls]
  exact (flatMap_taken Column.written h.columns).symm

theorem written_joins (h : selection.ReadFrom settings owner calls)
    (hcalls : file.calls = .ok calls) :
    selection.joins.flatMap Join.written =
      file.joins.flatMap fun fields => fields.entry.texts settings owner := by
  have hjoins := flatMap_taken Join.written h.joins
  rw [QueryFile.joins_calls hcalls, List.flatMap_map] at hjoins
  exact hjoins.symm

theorem written_groupBy (h : selection.ReadFrom settings owner calls)
    (hcalls : file.calls = .ok calls) :
    selection.groupBy.flatMap Column.written =
      file.groupBy.flatMap (Column.comparedTexts settings owner) := by
  rw [← QueryFile.groupings_calls hcalls]
  exact (flatMap_taken Column.written h.groupBy).symm

theorem orderTexts_eq (h : selection.ReadFrom settings owner calls)
    (hcalls : file.calls = .ok calls) :
    selection.orderTexts =
      file.orderBy.flatMap (SortKey.texts settings owner) := by
  rw [← QueryFile.orderings_calls hcalls]
  exact (flatMap_taken (fun key => key.column.written) h.orderBy).symm

theorem groupBy_eq_nil_iff (h : selection.ReadFrom settings owner calls)
    (hcalls : file.calls = .ok calls) :
    selection.groupBy = [] ↔ file.groupBy = [] := by
  have hlength := h.groupBy.length_eq
  rw [QueryFile.groupings_calls hcalls] at hlength
  rw [← List.length_eq_zero_iff, ← List.length_eq_zero_iff, hlength]

theorem anyBreaks_sourceTexts (h : selection.ReadFrom settings owner calls)
    (hcalls : file.calls = .ok calls) (howner : owner.WellFormed) :
    AnyBreaks selection.sourceTexts ↔
      AnyBreaks (file.sourceTexts settings owner) := by
  have hconditions := FilterCall.anyBreaks_fragments howner h.conditions
  rw [← flatMap_taken _ (QueryFile.forall₂_conditionCall hcalls)]
    at hconditions
  simp [Selection.sourceTexts, QueryFile.sourceTexts, h.table, hconditions,
    h.written_joins hcalls, h.written_groupBy hcalls]

end Selection.ReadFrom

/-!
## Statements of a file
-/

namespace QueryFile

variable {file : QueryFile} {settings : Settings} {calls : List SelectCall}
  {owner : Ident} {statement : Statement}

theorem breaks_rows (hcalls : file.calls = .ok calls)
    (howner : owner.WellFormed)
    (hread : ((SelectBuilder.start settings file.table).recordAll
      calls).selection.ReadFrom settings owner calls)
    (h : ((SelectBuilder.start settings file.table).recordAll
      calls).statement = .ok statement) :
    Breaks statement.sql ↔
      AnyBreaks (file.targetTexts settings owner none) ∨
        AnyBreaks (file.sourceTexts settings owner) ∨
        AnyBreaks (file.orderTexts settings owner none) := by
  rcases SelectBuilder.statement_eq_ok_iff.mp h with
    ⟨_, fragment, hrows, rfl⟩
  have hparts := SelectBuilder.wellFormed_selection settings file.table calls
  have hbreaks := hparts.breaks_rows
    (fun _ hcolumn _ => SelectBuilder.isPlainName_of_ownLabel hcolumn) hrows
  rw [hread.written_columns hcalls, hread.anyBreaks_sourceTexts hcalls howner,
    hread.orderTexts_eq hcalls] at hbreaks
  simpa [Fragment.statement, targetTexts, orderTexts] using hbreaks

theorem breaks_aggregate {function raw : String}
    (hcalls : file.calls = .ok calls) (howner : owner.WellFormed)
    (hread : ((SelectBuilder.start settings file.table).recordAll
      calls).selection.ReadFrom settings owner calls)
    (h : ((SelectBuilder.start settings file.table).recordAll
      calls).aggregateStatement function raw = .ok statement) :
    Breaks statement.sql ↔
      AnyBreaks (file.targetTexts settings owner (some (function, raw))) ∨
        AnyBreaks (file.sourceTexts settings owner) ∨
        AnyBreaks (file.orderTexts settings owner (some (function, raw))) := by
  rcases SelectBuilder.aggregateStatement_eq_ok h with
    ⟨aggregate, column, fragment, _, hcolumn, haggregated, rfl⟩
  have hparts := SelectBuilder.wellFormed_selection settings file.table calls
  have hsettings : ((SelectBuilder.start settings file.table).recordAll
      calls).settings = settings := by
    rw [SelectBuilder.recordAll_eq]
    rfl
  rw [hsettings, hread.table] at hcolumn
  have hbreaks := hparts.breaks_aggregated
    (Column.wellFormed_of_parseAggregateTarget
      (Ident.wellFormed_of_mem_some howner) hcolumn) haggregated
  rw [hread.anyBreaks_sourceTexts hcalls howner, hread.orderTexts_eq hcalls,
    Ne, hread.groupBy_eq_nil_iff hcalls] at hbreaks
  rw [Fragment.statement, hbreaks, targetTexts, hcolumn, taken, orderTexts]
  by_cases hgroups : file.groupBy = [] <;> simp [hgroups]

/-- The statement of a query file breaks exactly where one of the names and
calls does that it takes over from the file. -/
theorem breaks_statement {aggregate : Option (String × String)}
    (h : file.statement settings aggregate = .ok statement) :
    Breaks statement.sql ↔ AnyBreaks (file.written settings aggregate) := by
  rcases statement_eq_ok h with ⟨calls, _, hcalls, hnone, _, _⟩
  rcases SelectBuilder.readFrom_of_accepted hnone with ⟨owner, howner, hread⟩
  rw [(calls_eq_ok hcalls).1] at howner
  have hformed := Ident.wellFormed_of_parse howner
  rcases bind_eq_ok_iff.mp h with ⟨builder, hbuilder, hbuilt⟩
  rcases bind_eq_ok_iff.mp hbuilder with ⟨others, hothers, hpure⟩
  cases hcalls.symm.trans hothers
  cases hpure
  rw [written, howner, taken, anyBreaks_append, anyBreaks_append, or_assoc]
  cases aggregate with
  | none =>
      exact breaks_rows hcalls hformed hread (mapError_eq_ok_iff.mp hbuilt)
  | some target =>
      exact breaks_aggregate hcalls hformed hread
        (mapError_eq_ok_iff.mp hbuilt)

end QueryFile
end SqlAssembler
