import SqlAssembler.Builder.Select
import SqlAssembler.Proofs.Refusals.Edits
import SqlAssembler.Proofs.Results

/-!
# Recording clause by clause

An edit of a selection reads the table and one clause, and changes nothing but
that clause. Therefore each clause can be recorded by itself: what the calls of
all kinds leave in it, and which of them are refused, follows from the calls
that are meant for it.
-/

namespace SqlAssembler

/-!
## Parts that were recorded
-/

namespace Recording

variable {σ : Type}

def recorded (parts : σ) (edits : List (Edit σ)) : σ :=
  ((start parts).attemptAll edits).parts

theorem parts_attemptAll (recording : Recording σ) (edits : List (Edit σ)) :
    (recording.attemptAll edits).parts = recorded recording.parts edits := by
  have hsame : recording.parts = (start recording.parts).parts := rfl
  exact parts_attemptAll_eq hsame edits

theorem recorded_append (parts : σ) (edits others : List (Edit σ)) :
    recorded parts (edits ++ others) =
      recorded (recorded parts edits) others := by
  rw [recorded, attemptAll_append, parts_attemptAll]
  rfl

theorem recorded_cons_of_ok {parts after : σ} {edit : Edit σ}
    (h : edit parts = .ok after) (rest : List (Edit σ)) :
    recorded parts (edit :: rest) = recorded after rest := by
  have hattempt : (start parts).attempt edit = start after := attempt_of_ok h
  rw [recorded, attemptAll_cons, hattempt, recorded]

theorem recorded_cons_of_error {parts : σ} {edit : Edit σ} {error : Error}
    (h : edit parts = .error error) (rest : List (Edit σ)) :
    recorded parts (edit :: rest) = recorded parts rest := by
  have hattempt : (start parts).attempt edit = ⟨parts, some error⟩ :=
    attempt_of_error h
  rw [recorded, attemptAll_cons, hattempt, parts_attemptAll]

theorem refusals_cons_of_ok {parts after : σ} {edit : Edit σ}
    (h : edit parts = .ok after) (rest : List (Edit σ)) :
    refusals parts (edit :: rest) = refusals after rest := by
  rw [refusals, h]

theorem refusals_cons_of_error {parts : σ} {edit : Edit σ} {error : Error}
    (h : edit parts = .error error) (rest : List (Edit σ)) :
    refusals parts (edit :: rest) = error :: refusals parts rest := by
  rw [refusals, h]

theorem refusals_append (parts : σ) (edits others : List (Edit σ)) :
    refusals parts (edits ++ others) =
      refusals parts edits ++ refusals (recorded parts edits) others := by
  induction edits generalizing parts with
  | nil => rfl
  | cons edit rest ih =>
      rw [List.cons_append]
      cases h : edit parts with
      | ok after =>
          rw [recorded_cons_of_ok h, refusals_cons_of_ok h,
            refusals_cons_of_ok h, ih]
      | error error =>
          rw [recorded_cons_of_error h, refusals_cons_of_error h,
            refusals_cons_of_error h, ih, List.cons_append]

theorem failure_eq_none_iff (recording : Recording σ)
    (edits : List (Edit σ)) :
    (recording.attemptAll edits).failure = none ↔
      recording.failure = none ∧ refusals recording.parts edits = [] := by
  rw [failure_attemptAll_eq, Option.or_eq_none_iff, List.head?_eq_none_iff]

end Recording

open Recording

/-!
## Clauses of a selection
-/

/-- A component of a selection, apart from its table. -/
structure Clause (τ : Type) where
  get : Selection → τ
  set : Selection → τ → Selection
  get_set : ∀ selection value, get (set selection value) = value := by
    intros; rfl
  set_get : ∀ selection, set selection (get selection) = selection := by
    intros; rfl
  set_set : ∀ selection value other,
    set (set selection value) other = set selection other := by intros; rfl
  table_set : ∀ selection value,
    (set selection value).table = selection.table := by intros; rfl

namespace Clause

def columns : Clause (List Column) where
  get selection := selection.columns
  set selection columns := { selection with columns }

def joins : Clause (List Join) where
  get selection := selection.joins
  set selection joins := { selection with joins }

def conditions : Clause Conditions where
  get selection := selection.conditions
  set selection conditions := { selection with conditions }

def groupBy : Clause (List Column) where
  get selection := selection.groupBy
  set selection groupBy := { selection with groupBy }

def orderBy : Clause (List SortKey) where
  get selection := selection.orderBy
  set selection orderBy := { selection with orderBy }

variable {τ : Type}

def edit (clause : Clause τ) (inner : Option Ident → Edit τ) :
    Edit Selection := fun selection =>
  (inner selection.table (clause.get selection)).map (clause.set selection)

def inner (selection : Selection) (edits : List (Option Ident → Edit τ)) :
    List (Edit τ) :=
  edits.map fun edit => edit selection.table

theorem inner_set (clause : Clause τ) (selection : Selection) (value : τ)
    (edits : List (Option Ident → Edit τ)) :
    inner (clause.set selection value) edits = inner selection edits := by
  rw [inner, clause.table_set]
  rfl

theorem edit_of_ok {clause : Clause τ} {inner : Option Ident → Edit τ}
    {selection : Selection} {value : τ}
    (h : inner selection.table (clause.get selection) = .ok value) :
    clause.edit inner selection = .ok (clause.set selection value) := by
  rw [edit, h]
  rfl

theorem edit_of_error {clause : Clause τ} {inner : Option Ident → Edit τ}
    {selection : Selection} {error : Error}
    (h : inner selection.table (clause.get selection) = .error error) :
    clause.edit inner selection = .error error := by
  rw [edit, h]
  rfl

theorem recorded_edits (clause : Clause τ) (selection : Selection)
    (edits : List (Option Ident → Edit τ)) :
    recorded selection (edits.map clause.edit) =
      clause.set selection
        (recorded (clause.get selection) (inner selection edits)) := by
  induction edits generalizing selection with
  | nil => exact (clause.set_get selection).symm
  | cons edit rest ih =>
      rw [List.map_cons, inner, List.map_cons, ← inner]
      cases h : edit selection.table (clause.get selection) with
      | ok value =>
          rw [recorded_cons_of_ok (edit_of_ok h), recorded_cons_of_ok h, ih,
            inner_set, clause.get_set, clause.set_set]
      | error error =>
          rw [recorded_cons_of_error (edit_of_error h),
            recorded_cons_of_error h, ih]

theorem refusals_edits (clause : Clause τ) (selection : Selection)
    (edits : List (Option Ident → Edit τ)) :
    refusals selection (edits.map clause.edit) =
      refusals (clause.get selection) (inner selection edits) := by
  induction edits generalizing selection with
  | nil => rfl
  | cons edit rest ih =>
      rw [List.map_cons, inner, List.map_cons, ← inner]
      cases h : edit selection.table (clause.get selection) with
      | ok value =>
          rw [refusals_cons_of_ok (edit_of_ok h), refusals_cons_of_ok h, ih,
            inner_set, clause.get_set]
      | error error =>
          rw [refusals_cons_of_error (edit_of_error h),
            refusals_cons_of_error h, ih]

end Clause

/-!
## Edits of one clause
-/

structure JoinEntry where
  kind : Except Error JoinKind
  table : String
  left : String
  right : String

namespace Selection

variable (settings : Settings)

def projectInto (raw : String) (table : Option Ident) :
    Edit (List Column) := fun columns => do
  let column ← Column.parseProjection settings table raw
  match column.resultKey with
  | none => return columns ++ [column]
  | some key =>
      if columns.any fun other => other.resultKey = some key then
        let projection := String.ofList (Text.trim raw.toList)
        throw (.validation (.repeatedKey projection key))
      else return columns ++ [column]

def joinInto (entry : JoinEntry) (table : Option Ident) :
    Edit (List Join) := fun joins => do
  let kind ← entry.kind
  (Join.parse settings table kind entry.table entry.left entry.right).map
    fun join => joins ++ [join]

def filterInto (call : FilterCall) (table : Option Ident) :
    Edit Conditions := fun conditions =>
  call.apply settings table conditions

def groupInto (raw : String) (table : Option Ident) :
    Edit (List Column) := fun columns =>
  (Column.parse settings table raw).map fun column => columns ++ [column]

def orderInto (raw : String) (table : Option Ident) :
    Edit (List SortKey) := fun keys =>
  (SortKey.parse settings table raw).map fun key => keys ++ [key]

variable {settings}

theorem project_eq (raw : String) :
    project settings raw = Clause.columns.edit (projectInto settings raw) := by
  funext selection
  change project settings raw selection =
    (projectInto settings raw selection.table selection.columns).map
      fun columns => { selection with columns }
  rw [project, projectInto]
  cases Column.parseProjection settings selection.table raw with
  | error error => rfl
  | ok column =>
      simp only [bind, Except.bind]
      cases column.resultKey with
      | none => rfl
      | some key =>
          have hany : (selection.columns.any fun other =>
              other.resultKey = some key) = selection.hasResultKey key := rfl
          simp only [hany]
          cases selection.hasResultKey key <;> rfl

theorem addJoin_eq (parsed : Except Error JoinKind)
    (table left right : String) :
    (fun selection => do
      let kind ← parsed
      addJoin settings kind table left right selection) =
      Clause.joins.edit
        (joinInto settings ⟨parsed, table, left, right⟩) := by
  funext selection
  cases parsed with
  | error error => rfl
  | ok kind =>
      simp only [addJoin, Clause.edit, joinInto, Clause.joins, bind,
        Except.bind]
      cases Join.parse settings selection.table kind table left right <;> rfl

theorem addFilter_eq (call : FilterCall) :
    addFilter settings call =
      Clause.conditions.edit (filterInto settings call) :=
  rfl

theorem addGroup_eq (raw : String) :
    addGroup settings raw = Clause.groupBy.edit (groupInto settings raw) := by
  funext selection
  simp only [addGroup, Clause.edit, groupInto, Clause.groupBy]
  cases Column.parse settings selection.table raw <;> rfl

theorem addOrder_eq (raw : String) :
    addOrder settings raw = Clause.orderBy.edit (orderInto settings raw) := by
  funext selection
  simp only [addOrder, Clause.edit, orderInto, Clause.orderBy]
  cases SortKey.parse settings selection.table raw <;> rfl

end Selection

/-!
## What a call says about each clause
-/

namespace SelectCall

@[simp]
def setsTable : SelectCall → Bool
  | setTable _ => true
  | _ => false

def LeaveTable (calls : List SelectCall) : Prop :=
  ∀ call ∈ calls, call.setsTable = false

@[simp]
def isDistinct : SelectCall → Bool
  | distinct => true
  | _ => false

@[simp]
def projections : SelectCall → List String
  | select columns => columns
  | _ => []

@[simp]
def joins : SelectCall → List JoinEntry
  | join kind table left right => [⟨JoinKind.parse kind, table, left, right⟩]
  | joinAs kind table left right => [⟨.ok kind, table, left, right⟩]
  | _ => []

@[simp]
def filters : SelectCall → List FilterCall
  | filter call => [call]
  | _ => []

@[simp]
def groupings : SelectCall → List String
  | groupBy columns => columns
  | _ => []

@[simp]
def orderings : SelectCall → List String
  | orderBy entries => entries
  | _ => []

@[simp]
def limit? : SelectCall → Option UInt64
  | limit count => some count
  | page _ size => some (max size 1)
  | _ => none

@[simp]
def offset? : SelectCall → Option UInt64
  | offset count => some count
  | page number size => some (Selection.pageOffset (max number 1) (max size 1))
  | _ => none

end SelectCall

namespace Selection

variable (settings : Settings) (selection : Selection)
  (calls : List SelectCall)

def clauseEdits {τ ι : Type} (entries : SelectCall → List ι)
    (into : ι → Option Ident → Edit τ) : List (Edit τ) :=
  Clause.inner selection ((calls.flatMap entries).map into)

theorem clauseEdits_eq {τ ι : Type} (entries : SelectCall → List ι)
    (into : ι → Option Ident → Edit τ) :
    selection.clauseEdits calls entries into =
      (calls.flatMap entries).map fun entry => into entry selection.table := by
  rw [clauseEdits, Clause.inner, List.map_map]
  rfl

def extended : Selection where
  table := selection.table
  distinct := calls.any SelectCall.isDistinct || selection.distinct
  joins := recorded selection.joins
    (selection.clauseEdits calls SelectCall.joins (joinInto settings))
  columns := recorded selection.columns
    (selection.clauseEdits calls SelectCall.projections (projectInto settings))
  conditions := recorded selection.conditions
    (selection.clauseEdits calls SelectCall.filters (filterInto settings))
  groupBy := recorded selection.groupBy
    (selection.clauseEdits calls SelectCall.groupings (groupInto settings))
  orderBy := recorded selection.orderBy
    (selection.clauseEdits calls SelectCall.orderings (orderInto settings))
  limit := (calls.filterMap SelectCall.limit?).getLast?.or selection.limit
  offset := (calls.filterMap SelectCall.offset?).getLast?.or selection.offset

def clauseRefusals : List Error :=
  refusals selection.joins
      (selection.clauseEdits calls SelectCall.joins (joinInto settings)) ++
    refusals selection.columns
      (selection.clauseEdits calls SelectCall.projections
        (projectInto settings)) ++
    refusals selection.conditions
      (selection.clauseEdits calls SelectCall.filters (filterInto settings)) ++
    refusals selection.groupBy
      (selection.clauseEdits calls SelectCall.groupings
        (groupInto settings)) ++
    refusals selection.orderBy
      (selection.clauseEdits calls SelectCall.orderings (orderInto settings))

/-!
## One call
-/

variable {settings selection}

theorem clauseEdits_single {τ ι : Type} (call : SelectCall)
    (entries : SelectCall → List ι) (into : ι → Option Ident → Edit τ) :
    selection.clauseEdits [call] entries into =
      Clause.inner selection ((entries call).map into) := by
  rw [clauseEdits, List.flatMap_singleton]

theorem clauseEdits_cons {τ ι : Type} (call : SelectCall)
    (rest : List SelectCall) (entries : SelectCall → List ι)
    (into : ι → Option Ident → Edit τ) :
    selection.clauseEdits (call :: rest) entries into =
      selection.clauseEdits [call] entries into ++
        selection.clauseEdits rest entries into := by
  simp [clauseEdits, Clause.inner]

theorem extended_single (call : SelectCall) :
    selection.extended settings [call] =
      { selection with
        distinct := call.isDistinct || selection.distinct
        joins := recorded selection.joins
          (Clause.inner selection (call.joins.map (joinInto settings)))
        columns := recorded selection.columns
          (Clause.inner selection (call.projections.map (projectInto settings)))
        conditions := recorded selection.conditions
          (Clause.inner selection (call.filters.map (filterInto settings)))
        groupBy := recorded selection.groupBy
          (Clause.inner selection (call.groupings.map (groupInto settings)))
        orderBy := recorded selection.orderBy
          (Clause.inner selection (call.orderings.map (orderInto settings)))
        limit := call.limit?.or selection.limit
        offset := call.offset?.or selection.offset } := by
  simp only [extended, clauseEdits_single, List.any_cons, List.any_nil,
    Bool.or_false, List.filterMap_cons, List.filterMap_nil]
  cases call.limit? <;> cases call.offset? <;> rfl

theorem edits_select (columns : List String) :
    SelectCall.edits settings (.select columns) =
      (columns.map (projectInto settings)).map Clause.columns.edit := by
  rw [SelectCall.edits, List.map_map]
  apply List.map_congr_left
  intro raw _
  rw [Function.comp_apply, project_eq]

theorem edits_join (kind table left right : String) :
    SelectCall.edits settings (.join kind table left right) =
      [Clause.joins.edit
        (joinInto settings ⟨JoinKind.parse kind, table, left, right⟩)] := by
  rw [SelectCall.edits, addJoin_eq]

theorem edits_joinAs (kind : JoinKind) (table left right : String) :
    SelectCall.edits settings (.joinAs kind table left right) =
      [Clause.joins.edit
        (joinInto settings ⟨.ok kind, table, left, right⟩)] := by
  rw [← addJoin_eq]
  rfl

theorem edits_groupBy (columns : List String) :
    SelectCall.edits settings (.groupBy columns) =
      (columns.map (groupInto settings)).map Clause.groupBy.edit := by
  rw [SelectCall.edits, List.map_map]
  apply List.map_congr_left
  intro raw _
  rw [Function.comp_apply, addGroup_eq]

theorem edits_orderBy (entries : List String) :
    SelectCall.edits settings (.orderBy entries) =
      (entries.map (orderInto settings)).map Clause.orderBy.edit := by
  rw [SelectCall.edits, List.map_map]
  apply List.map_congr_left
  intro raw _
  rw [Function.comp_apply, addOrder_eq]

/-- What a call leaves in the selection is what it leaves in each clause. -/
theorem recorded_call {call : SelectCall} (h : call.setsTable = false) :
    recorded selection (call.edits settings) =
      selection.extended settings [call] := by
  rw [extended_single]
  cases call with
  | setTable name => cases h
  | select columns =>
      rw [edits_select, Clause.recorded_edits]
      rfl
  | join kind table left right =>
      rw [edits_join]
      exact Clause.joins.recorded_edits selection [_]
  | joinAs kind table left right =>
      rw [edits_joinAs]
      exact Clause.joins.recorded_edits selection [_]
  | filter call =>
      exact Clause.conditions.recorded_edits selection
        [filterInto settings call]
  | groupBy columns =>
      rw [edits_groupBy, Clause.recorded_edits]
      rfl
  | orderBy entries =>
      rw [edits_orderBy, Clause.recorded_edits]
      rfl
  | distinct => rfl
  | limit count => rfl
  | offset count => rfl
  | page number size => rfl

theorem refusals_call {call : SelectCall} (h : call.setsTable = false) :
    refusals selection (call.edits settings) =
      selection.clauseRefusals settings [call] := by
  rw [clauseRefusals]
  simp only [clauseEdits_single]
  cases call with
  | setTable name => cases h
  | select columns =>
      rw [edits_select, Clause.refusals_edits]
      simp [refusals, Clause.inner, Clause.columns]
  | join kind table left right =>
      have hjoins := Clause.joins.refusals_edits selection
        [joinInto settings ⟨JoinKind.parse kind, table, left, right⟩]
      rw [edits_join]
      simpa [refusals, Clause.inner, Clause.joins] using hjoins
  | joinAs kind table left right =>
      have hjoins := Clause.joins.refusals_edits selection
        [joinInto settings ⟨.ok kind, table, left, right⟩]
      rw [edits_joinAs]
      simpa [refusals, Clause.inner, Clause.joins] using hjoins
  | filter call =>
      have hconditions := Clause.conditions.refusals_edits selection
        [filterInto settings call]
      rw [SelectCall.edits, addFilter_eq]
      simpa [refusals, Clause.inner, Clause.conditions] using hconditions
  | groupBy columns =>
      rw [edits_groupBy, Clause.refusals_edits]
      simp [refusals, Clause.inner, Clause.groupBy]
  | orderBy entries =>
      rw [edits_orderBy, Clause.refusals_edits]
      simp [refusals, Clause.inner, Clause.orderBy]
  | distinct => rfl
  | limit count => rfl
  | offset count => rfl
  | page number size => rfl

/-!
## Sequences of calls
-/

theorem last_cons {α : Type} (value? : SelectCall → Option α)
    (call : SelectCall) (rest : List SelectCall) (start : Option α) :
    ((call :: rest).filterMap value?).getLast?.or start =
      (rest.filterMap value?).getLast?.or
        (([call].filterMap value?).getLast?.or start) := by
  have happend : call :: rest = [call] ++ rest := rfl
  rw [happend, List.filterMap_append, List.getLast?_append, Option.or_assoc]

theorem clauseEdits_extended {τ ι : Type} (before calls : List SelectCall)
    (entries : SelectCall → List ι) (into : ι → Option Ident → Edit τ) :
    (selection.extended settings before).clauseEdits calls entries into =
      selection.clauseEdits calls entries into :=
  rfl

theorem extended_cons (call : SelectCall) (rest : List SelectCall) :
    selection.extended settings (call :: rest) =
      (selection.extended settings [call]).extended settings rest := by
  have hdistinct : ((call :: rest).any SelectCall.isDistinct ||
        selection.distinct) =
      (rest.any SelectCall.isDistinct ||
        ([call].any SelectCall.isDistinct || selection.distinct)) := by
    rw [List.any_cons, List.any_cons, List.any_nil, Bool.or_false,
      Bool.or_comm call.isDistinct, Bool.or_assoc]
  rw [extended, hdistinct, last_cons SelectCall.limit?,
    last_cons SelectCall.offset?]
  simp only [clauseEdits_cons call rest, recorded_append]
  rfl

theorem clauseRefusals_cons (call : SelectCall) (rest : List SelectCall) :
    (selection.clauseRefusals settings (call :: rest)).Perm
      (selection.clauseRefusals settings [call] ++
        (selection.extended settings [call]).clauseRefusals settings rest) := by
  rw [List.perm_iff_count]
  intro error
  simp only [clauseRefusals, clauseEdits_extended, clauseEdits_cons call rest,
    refusals_append, List.count_append]
  simp only [extended]
  omega

theorem recorded_calls {calls : List SelectCall}
    (h : SelectCall.LeaveTable calls) :
    recorded selection (calls.flatMap (SelectCall.edits settings)) =
      selection.extended settings calls := by
  induction calls generalizing selection with
  | nil => rfl
  | cons call rest ih =>
      have hcall := h call List.mem_cons_self
      have hrest := fun other hother =>
        h other (List.mem_cons_of_mem call hother)
      rw [List.flatMap_cons, recorded_append, recorded_call hcall, ih hrest,
        ← extended_cons]

theorem refusals_calls {calls : List SelectCall}
    (h : SelectCall.LeaveTable calls) :
    (refusals selection (calls.flatMap (SelectCall.edits settings))).Perm
      (selection.clauseRefusals settings calls) := by
  induction calls generalizing selection with
  | nil => exact List.Perm.refl _
  | cons call rest ih =>
      have hcall := h call List.mem_cons_self
      have hrest := fun other hother =>
        h other (List.mem_cons_of_mem call hother)
      rw [List.flatMap_cons, refusals_append, recorded_call hcall,
        refusals_call hcall]
      exact (List.Perm.append_left _ (ih hrest)).trans
        (clauseRefusals_cons call rest).symm

end Selection
end SqlAssembler
