import SqlAssembler.Proofs.Clauses.Basic
import SqlAssembler.Proofs.Conditions.Shape
import SqlAssembler.Proofs.Influence.Alike
import SqlAssembler.Proofs.Qualification.Columns

/-!
# One call with and without qualification

Two selections, one of which has owners in front of its columns, take the same
call for the same reasons. What the call adds to both is the same again, with
the table of the moment in front.
-/

namespace SqlAssembler

open Recording

/-!
## Edits that correspond
-/

theorem Recording.refusals_of_corresponds {σ : Type} {R : σ → σ → Prop}
    {edits others : List (Edit σ)}
    (h : List.Forall₂ (Corresponds R) edits others) {parts other : σ}
    (hparts : R parts other) :
    refusals parts edits = refusals other others ∧
      R (recorded parts edits) (recorded other others) := by
  induction h generalizing parts other with
  | nil => exact ⟨rfl, hparts⟩
  | cons hedit _ ih =>
      rcases (hedit _ _ hparts).cases with ⟨error, hfirst, hsecond⟩ |
        ⟨after, otherAfter, hfirst, hsecond, hafter⟩
      · rw [refusals_cons_of_error hfirst, refusals_cons_of_error hsecond,
          recorded_cons_of_error hfirst, recorded_cons_of_error hsecond]
        exact ⟨congrArg (error :: ·) (ih hparts).1, (ih hparts).2⟩
      · rw [refusals_cons_of_ok hfirst, refusals_cons_of_ok hsecond,
          recorded_cons_of_ok hfirst, recorded_cons_of_ok hsecond]
        exact ih hafter

/-!
## Conditions of the same shape
-/

namespace Conditions

def SameShape (conditions others : Conditions) : Prop :=
  conditions.mapFragments (fun _ => []) = others.mapFragments fun _ => []

variable {conditions others : Conditions}

theorem SameShape.isEmpty_eq (h : conditions.SameShape others) :
    others.isEmpty = conditions.isEmpty := by
  rw [← isEmpty_mapFragments (fun _ => []) conditions, h, isEmpty_mapFragments]

theorem SameShape.depth_eq (h : conditions.SameShape others) :
    others.depth = conditions.depth := by
  rw [← depth_mapFragments (fun _ => []) conditions, h, depth_mapFragments]

theorem SameShape.add (h : conditions.SameShape others)
    (connector : Connector) (fragment other : Fragment) :
    (conditions.add connector fragment).SameShape
      (others.add connector other) := by
  have hfirst :=
    add_mapFragments (fun _ => []) conditions connector fragment
  rw [h] at hfirst
  exact hfirst.symm.trans (add_mapFragments _ others connector other)

theorem SameShape.openGroup (h : conditions.SameShape others)
    (connector : Connector) :
    (conditions.openGroup connector).SameShape
      (others.openGroup connector) := by
  rw [SameShape, ← openGroup_mapFragments, h, openGroup_mapFragments]

theorem SameShape.closeGroup (h : conditions.SameShape others) :
    Agree SameShape conditions.closeGroup others.closeGroup := by
  have hsame : conditions.closeGroup.map (mapFragments fun _ => []) =
      others.closeGroup.map (mapFragments fun _ => []) := by
    rw [← closeGroup_mapFragments, h, closeGroup_mapFragments]
  exact .of_map_eq hsame

theorem SameShape.render (h : conditions.SameShape others) :
    SameError conditions.render others.render := by
  rw [Conditions.render, Conditions.render, h.depth_eq, h.isEmpty_eq]
  split
  · exact .error _
  · split
    · exact .ok trivial
    · exact .ok trivial

end Conditions

theorem Filter.agree_condition (functions : FunctionNames)
    (column other : String) (operator : Operator) (value : String) :
    SameError (condition functions column operator value)
      (condition functions other operator value) := by
  unfold condition
  split
  · exact .error _
  · cases operator with
    | comparison kind => exact .ok trivial
    | pattern shape => exact .ok trivial
    | membership negated => exact .ok trivial
    | nullness negated =>
        dsimp only
        split
        · exact .ok trivial
        · exact .error _

namespace FilterCall

variable (functions : FunctionNames) (table : Option Ident)
  {conditions others : Conditions}

theorem agree_addFilter (h : conditions.SameShape others)
    (connector : Connector) (column : String) (operator : Operator)
    (value : String) :
    Agree Conditions.SameShape
      (addFilter (.asGiven functions) table conditions connector column
        operator value)
      (addFilter (.qualifying functions) table others connector column
        operator value) := by
  unfold addFilter
  rw [Column.parse_qualifying functions table table]
  cases Column.parse (.asGiven functions) table column with
  | error error => exact .error error
  | ok given =>
      have hcondition := Filter.agree_condition functions given.sql
        (given.ownedBy table).sql operator value
      exact hcondition.bind fun fragment other _ =>
        .ok (h.add connector fragment other)

theorem agree_apply (h : conditions.SameShape others) (call : FilterCall) :
    Agree Conditions.SameShape
      (call.apply (.asGiven functions) table conditions)
      (call.apply (.qualifying functions) table others) := by
  cases call with
  | filter connector column token value =>
      apply Agree.bind_same
      intro operator _
      exact agree_addFilter functions table h connector column operator value
  | filterBy column operator value =>
      exact agree_addFilter functions table h .and column operator value
  | openGroup connector => exact .ok (h.openGroup connector)
  | closeGroup => exact h.closeGroup

end FilterCall

/-!
## Items and their owners
-/

section

variable {κ : Type}

inductive OwnedAll (owned : Option Ident → κ → κ) :
    List (Option Ident) → List κ → List κ → Prop where
  | nil : OwnedAll owned [] [] []
  | cons (owner : Option Ident) (item : κ) {owners : List (Option Ident)}
      {items others : List κ} (h : OwnedAll owned owners items others) :
      OwnedAll owned (owner :: owners) (item :: items)
        (owned owner item :: others)

def Continued (owned : κ → κ) (items others after otherAfter : List κ) :
    Prop :=
  ∃ added, after = items ++ added ∧ otherAfter = others ++ added.map owned

variable {owned : Option Ident → κ → κ} {owners : List (Option Ident)}
  {items others : List κ}

theorem OwnedAll.append (h : OwnedAll owned owners items others)
    (owner : Option Ident) (added : List κ) :
    OwnedAll owned (owners ++ List.replicate added.length owner)
      (items ++ added) (others ++ added.map (owned owner)) := by
  induction h with
  | nil =>
      induction added with
      | nil => exact .nil
      | cons item rest ih => exact .cons owner item ih
  | cons first item _ ih => exact .cons first item ih

theorem OwnedAll.continued (h : OwnedAll owned owners items others)
    {owner : Option Ident} {after otherAfter : List κ}
    (hafter : Continued (owned owner) items others after otherAfter) :
    OwnedAll owned
      (owners ++ List.replicate (after.length - items.length) owner)
      after otherAfter := by
  rcases hafter with ⟨added, rfl, rfl⟩
  rw [List.length_append, Nat.add_sub_cancel_left]
  exact h.append owner added

theorem OwnedAll.isEmpty_eq (h : OwnedAll owned owners items others) :
    others.isEmpty = items.isEmpty := by
  cases h <;> rfl

theorem OwnedAll.map_eq {β : Type} {f : κ → β}
    (hf : ∀ owner item, f (owned owner item) = f item)
    (h : OwnedAll owned owners items others) : others.map f = items.map f := by
  induction h with
  | nil => rfl
  | cons owner item _ ih => rw [List.map_cons, List.map_cons, hf, ih]

theorem continued_refl (owned : κ → κ) (items others : List κ) :
    Continued owned items others items others :=
  ⟨[], by simp, by simp⟩

theorem Continued.concat {owned : κ → κ} {after otherAfter : List κ}
    (h : Continued owned items others after otherAfter) (item : κ) :
    Continued owned items others (after ++ [item])
      (otherAfter ++ [owned item]) := by
  rcases h with ⟨added, rfl, rfl⟩
  exact ⟨added ++ [item], by simp, by simp⟩

theorem corresponds_reading (owned : κ → κ) (items others : List κ)
    (read : Except Error κ) :
    Corresponds (Continued owned items others)
      (fun items => read.map fun item => items ++ [item])
      (fun items => (read.map owned).map fun item => items ++ [item]) := by
  intro after otherAfter h
  cases read with
  | error error => exact .error error
  | ok item => exact .ok (h.concat item)

end

/-!
## Entries
-/

namespace Selection

variable (functions : FunctionNames) (table : Option Ident)

theorem corresponds_groupInto (items others : List Column) (raw : String) :
    Corresponds (Continued (Column.ownedBy table) items others)
      (groupInto (.asGiven functions) raw table)
      (groupInto (.qualifying functions) raw table) := by
  have hreading := corresponds_reading (Column.ownedBy table) items others
    (Column.parse (.asGiven functions) table raw)
  rw [← Column.parse_qualifying] at hreading
  exact hreading

theorem corresponds_orderInto (items others : List SortKey) (raw : String) :
    Corresponds (Continued (SortKey.ownedBy table) items others)
      (orderInto (.asGiven functions) raw table)
      (orderInto (.qualifying functions) raw table) := by
  have hreading := corresponds_reading (SortKey.ownedBy table) items others
    (SortKey.parse (.asGiven functions) table raw)
  rw [← SortKey.parse_qualifying] at hreading
  exact hreading

theorem corresponds_joinInto (items others : List Join) (entry : JoinEntry) :
    Corresponds (Continued (Join.ownedBy table) items others)
      (joinInto (.asGiven functions) entry table)
      (joinInto (.qualifying functions) entry table) := by
  rcases entry with ⟨parsed, name, left, right⟩
  cases parsed with
  | error error => exact fun _ _ _ => .error error
  | ok kind =>
      have hreading := corresponds_reading (Join.ownedBy table) items others
        (Join.parse (.asGiven functions) table kind name left right)
      rw [← Join.parse_qualifying] at hreading
      exact hreading

theorem corresponds_projectInto {items others : List Column}
    (hkeys : others.map Column.resultKey = items.map Column.resultKey)
    (raw : String) :
    Corresponds (Continued (Column.ownedBy table) items others)
      (projectInto (.asGiven functions) raw table)
      (projectInto (.qualifying functions) raw table) := by
  intro after otherAfter h
  -- no key depends on an owner, so both lists know the same keys
  have hany : ∀ key,
      (otherAfter.any fun other => other.resultKey = some key) =
        after.any fun other => other.resultKey = some key := by
    intro key
    have hsame : otherAfter.map Column.resultKey =
        after.map Column.resultKey := by
      rcases h with ⟨added, rfl, rfl⟩
      simp [hkeys, Column.resultKey_ownedBy]
    have hmapped : ∀ columns : List Column,
        (columns.any fun other => other.resultKey = some key) =
          (columns.map Column.resultKey).any (· = some key) := by
      intro columns
      rw [List.any_map]
      rfl
    rw [hmapped, hmapped, hsame]
  rw [projectInto, projectInto,
    Column.parseProjection_qualifying functions table table]
  cases Column.parseProjection (.asGiven functions) table raw with
  | error error => exact .error error
  | ok column =>
      simp only [Except.map, bind, Except.bind, Column.resultKey_ownedBy, hany]
      cases column.resultKey with
      | none => exact .ok (h.concat column)
      | some key =>
          dsimp only
          split
          · exact .error _
          · exact .ok (h.concat column)

theorem corresponds_filterInto (call : FilterCall) :
    Corresponds Conditions.SameShape
      (filterInto (.asGiven functions) call table)
      (filterInto (.qualifying functions) call table) :=
  fun _ _ h => call.agree_apply functions table h

end Selection

/-!
## Selections
-/

/-- For each entry of a selection, the table that it was recorded under. -/
structure Owners where
  columns : List (Option Ident)
  joins : List (Option Ident)
  groupBy : List (Option Ident)
  orderBy : List (Option Ident)

def Owners.none : Owners :=
  ⟨[], [], [], []⟩

def Owners.after (owners : Owners) (before after : Selection) : Owners where
  columns := owners.columns ++
    List.replicate (after.columns.length - before.columns.length) before.table
  joins := owners.joins ++
    List.replicate (after.joins.length - before.joins.length) before.table
  groupBy := owners.groupBy ++
    List.replicate (after.groupBy.length - before.groupBy.length) before.table
  orderBy := owners.orderBy ++
    List.replicate (after.orderBy.length - before.orderBy.length) before.table

namespace Selection

structure Qualified (owners : Owners) (given qualified : Selection) :
    Prop where
  table : qualified.table = given.table
  distinct : qualified.distinct = given.distinct
  joins : OwnedAll Join.ownedBy owners.joins given.joins qualified.joins
  columns :
    OwnedAll Column.ownedBy owners.columns given.columns qualified.columns
  conditions : given.conditions.SameShape qualified.conditions
  groupBy :
    OwnedAll Column.ownedBy owners.groupBy given.groupBy qualified.groupBy
  orderBy :
    OwnedAll SortKey.ownedBy owners.orderBy given.orderBy qualified.orderBy
  limit : qualified.limit = given.limit
  offset : qualified.offset = given.offset

variable {owners : Owners} {given qualified : Selection}

theorem Qualified.resultKeys_eq (h : given.Qualified owners qualified) :
    qualified.columns.map Column.resultKey =
      given.columns.map Column.resultKey :=
  h.columns.map_eq Column.resultKey_ownedBy

theorem Qualified.usesTable_eq (h : given.Qualified owners qualified) :
    qualified.usesTable = given.usesTable := by
  rw [usesTable, usesTable, h.columns.isEmpty_eq, h.joins.isEmpty_eq,
    h.conditions.isEmpty_eq, h.groupBy.isEmpty_eq, h.orderBy.isEmpty_eq]

theorem refusals_clause {τ ι : Type} {R : τ → τ → Prop} {value other : τ}
    {into otherInto : ι → Option Ident → Edit τ}
    (htable : qualified.table = given.table)
    (hinto : ∀ entry,
      Corresponds R (into entry given.table) (otherInto entry given.table))
    (hvalue : R value other) (calls : List SelectCall)
    (entries : SelectCall → List ι) :
    refusals value (given.clauseEdits calls entries into) =
        refusals other (qualified.clauseEdits calls entries otherInto) ∧
      R (recorded value (given.clauseEdits calls entries into))
        (recorded other (qualified.clauseEdits calls entries otherInto)) := by
  apply refusals_of_corresponds _ hvalue
  rw [clauseEdits_eq, clauseEdits_eq, htable, List.forall₂_map_left_iff,
    List.forall₂_map_right_iff, List.forall₂_same]
  exact fun entry _ => hinto entry

/-- A call that sets no table is refused in both selections for the same reasons
and records the same, up to the owners. -/
theorem Qualified.extended (functions : FunctionNames)
    (h : given.Qualified owners qualified) (call : SelectCall) :
    given.clauseRefusals (.asGiven functions) [call] =
        qualified.clauseRefusals (.qualifying functions) [call] ∧
      (given.extended (.asGiven functions) [call]).Qualified
        (owners.after given (given.extended (.asGiven functions) [call]))
        (qualified.extended (.qualifying functions) [call]) := by
  have hjoins := refusals_clause h.table
    (corresponds_joinInto functions given.table given.joins qualified.joins)
    (continued_refl _ _ _) [call] SelectCall.joins
  have hcolumns := refusals_clause h.table
    (corresponds_projectInto functions given.table h.resultKeys_eq)
    (continued_refl _ _ _) [call] SelectCall.projections
  have hconditions := refusals_clause h.table
    (corresponds_filterInto functions given.table)
    h.conditions [call] SelectCall.filters
  have hgroups := refusals_clause h.table
    (corresponds_groupInto functions given.table given.groupBy
      qualified.groupBy)
    (continued_refl _ _ _) [call] SelectCall.groupings
  have horders := refusals_clause h.table
    (corresponds_orderInto functions given.table given.orderBy
      qualified.orderBy)
    (continued_refl _ _ _) [call] SelectCall.orderings
  constructor
  · rw [clauseRefusals, clauseRefusals, hjoins.1, hcolumns.1, hconditions.1,
      hgroups.1, horders.1]
  · constructor
    · exact h.table
    · exact congrArg (_ || ·) h.distinct
    · exact h.joins.continued hjoins.2
    · exact h.columns.continued hcolumns.2
    · exact hconditions.2
    · exact h.groupBy.continued hgroups.2
    · exact h.orderBy.continued horders.2
    · exact congrArg (Option.or _) h.limit
    · exact congrArg (Option.or _) h.offset

end Selection
end SqlAssembler
