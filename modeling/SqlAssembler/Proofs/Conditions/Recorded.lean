import SqlAssembler.Proofs.Conditions.Groups
import SqlAssembler.Proofs.Scripts.Recorded

/-!
# Conditions that were recorded

Conditions that are recorded by calls, and not put together in another way, mean
a nested expression in which every group holds an item. So a group alone
restricts nothing: where anything was recorded and no group is open, there is a
condition. The conditions of the expression are those that were recorded, in
their order.
-/

namespace SqlAssembler

/-!
## The conditions of an expression
-/

mutual

def Item.fragments : Item → List Fragment
  | .condition fragment => [fragment]
  | .group items => Items.fragments items

def Items.fragments : Items → List Fragment
  | [] => []
  | (_, item) :: rest => item.fragments ++ Items.fragments rest

end

mutual

def Item.Filled : Item → Prop
  | .condition _ => True
  | .group items => items ≠ [] ∧ Items.Filled items

def Items.Filled : Items → Prop
  | [] => True
  | (_, item) :: rest => item.Filled ∧ Items.Filled rest

end

mutual

theorem Item.fragments_ne_nil {item : Item} (h : item.Filled) :
    item.fragments ≠ [] := by
  cases item with
  | condition fragment => simp [Item.fragments]
  | group items =>
      rw [Item.Filled] at h
      rw [Item.fragments]
      exact Items.fragments_ne_nil h.2 h.1

theorem Items.fragments_ne_nil {items : Items} (h : Items.Filled items)
    (hne : items ≠ []) : Items.fragments items ≠ [] := by
  cases items with
  | nil => exact absurd rfl hne
  | cons first rest =>
      rcases first with ⟨connector, item⟩
      rw [Items.Filled] at h
      rw [Items.fragments]
      intro hnil
      exact Item.fragments_ne_nil h.1 (List.append_eq_nil_iff.mp hnil).1

end

namespace Items

theorem fragments_append (items more : Items) :
    Items.fragments (items ++ more) =
      Items.fragments items ++ Items.fragments more := by
  induction items with
  | nil => simp [Items.fragments]
  | cons first rest ih =>
      rcases first with ⟨connector, item⟩
      simp [Items.fragments, ih]

theorem fragments_concat (items : Items) (connector : Connector)
    (item : Item) :
    Items.fragments (items ++ [(connector, item)]) =
      Items.fragments items ++ item.fragments := by
  simp [fragments_append, Items.fragments]

theorem Filled.concat {items : Items} {item : Item} (h : Items.Filled items)
    (hitem : item.Filled) (connector : Connector) :
    Items.Filled (items ++ [(connector, item)]) := by
  induction items with
  | nil => simpa [Items.Filled] using hitem
  | cons first rest ih =>
      rcases first with ⟨other, firstItem⟩
      rw [Items.Filled] at h
      rw [List.cons_append, Items.Filled]
      exact ⟨h.1, ih h.2⟩

end Items

namespace OpenExpression

def outerFragments : List Enclosing → List Fragment
  | [] => []
  | enclosing :: outer =>
      outerFragments outer ++ Items.fragments enclosing.before

def fragments (expression : OpenExpression) : List Fragment :=
  outerFragments expression.enclosing ++ Items.fragments expression.items

theorem closeGroup_eq_ok {expression next : OpenExpression}
    (h : expression.closeGroup = .ok next) :
    ∃ before connector outer,
      expression = ⟨expression.items, ⟨before, connector⟩ :: outer⟩ ∧
      expression.items ≠ [] ∧
      next = ⟨before ++ [(connector, .group expression.items)], outer⟩ := by
  rcases expression with ⟨items, enclosing⟩
  cases enclosing with
  | nil => cases h
  | cons innermost outer =>
      rcases innermost with ⟨before, connector⟩
      simp only [closeGroup] at h
      split at h
      · cases h
      · rename_i hitems
        cases h
        refine ⟨before, connector, outer, rfl, ?_, rfl⟩
        intro hnil
        exact hitems (List.isEmpty_iff.mpr hnil)

/-- Every group that was closed holds an item. -/
structure Filled (expression : OpenExpression) : Prop where
  items : Items.Filled expression.items
  before : ∀ enclosing ∈ expression.enclosing,
    Items.Filled enclosing.before

end OpenExpression

/-!
## Agreement
-/

def Node.fragment? : Node → Option Fragment
  | .condition _ fragment => some fragment
  | _ => none

namespace Conditions

def fragments (conditions : Conditions) : List Fragment :=
  conditions.nodes.filterMap Node.fragment?

theorem mem_fragments_iff {conditions : Conditions} {fragment : Fragment} :
    fragment ∈ conditions.fragments ↔
      ∃ connector, .condition connector fragment ∈ conditions.nodes := by
  unfold fragments
  rw [List.mem_filterMap]
  constructor
  · rintro ⟨node, hnode, hfragment⟩
    cases node with
    | condition connector other =>
        cases hfragment
        exact ⟨connector, hnode⟩
    | opening connector => cases hfragment
    | closing => cases hfragment
  · rintro ⟨connector, hnode⟩
    exact ⟨_, hnode, rfl⟩

theorem fragments_add (conditions : Conditions) (connector : Connector)
    (fragment : Fragment) :
    (conditions.add connector fragment).fragments =
      conditions.fragments ++ [fragment] := by
  simp [fragments, add, push, Node.fragment?]

theorem fragments_openGroup (conditions : Conditions) (connector : Connector) :
    (conditions.openGroup connector).fragments = conditions.fragments := by
  simp [fragments, openGroup, push, Node.fragment?]

theorem fragments_closing (conditions : Conditions) :
    (conditions.push .closing).fragments = conditions.fragments := by
  simp [fragments, push, Node.fragment?]

theorem closeGroup_eq_ok {conditions after : Conditions}
    (h : conditions.closeGroup = .ok after) :
    after = conditions.push .closing := by
  unfold closeGroup at h
  split at h
  · cases h
  · split at h
    · cases h
    · cases h
      rfl

structure Holds (conditions : Conditions) (expression : OpenExpression) :
    Prop where
  means : conditions.Means expression
  fragments : conditions.fragments = expression.fragments
  filled : expression.Filled

theorem holds_empty : empty.Holds .empty := by
  constructor
  · exact means_empty
  · rfl
  · constructor
    · trivial
    · intro enclosing hmem
      cases hmem

variable {conditions : Conditions} {expression : OpenExpression}

theorem Holds.add (h : conditions.Holds expression) (connector : Connector)
    (fragment : Fragment) :
    (conditions.add connector fragment).Holds
      (expression.add connector fragment) := by
  constructor
  · exact h.means.add connector fragment
  · rw [fragments_add, h.fragments]
    simp [OpenExpression.fragments, OpenExpression.add,
      Items.fragments_concat, Item.fragments]
  · constructor
    · have hitem : (Item.condition fragment).Filled := by
        rw [Item.Filled]
        trivial
      exact h.filled.items.concat hitem connector
    · exact h.filled.before

theorem Holds.openGroup (h : conditions.Holds expression)
    (connector : Connector) :
    (conditions.openGroup connector).Holds
      (expression.openGroup connector) := by
  constructor
  · exact h.means.openGroup connector
  · rw [fragments_openGroup, h.fragments]
    simp [OpenExpression.fragments, OpenExpression.openGroup,
      OpenExpression.outerFragments, Items.fragments]
  · constructor
    · trivial
    · intro enclosing hmem
      rcases List.mem_cons.mp hmem with hfirst | hrest
      · rw [hfirst]
        exact h.filled.items
      · exact h.filled.before enclosing hrest

theorem Holds.closeGroup {after : Conditions} (h : conditions.Holds expression)
    (hclose : conditions.closeGroup = .ok after) :
    ∃ next, after.Holds next := by
  rcases h.means.closeGroup with ⟨error, herror, _⟩ |
    ⟨other, next, hother, hnext, hmeans⟩
  · rw [hclose] at herror
    cases herror
  · rw [hclose] at hother
    cases hother
    rcases OpenExpression.closeGroup_eq_ok hnext with
      ⟨before, connector, outer, hexpression, hne, rfl⟩
    have hfragments := h.fragments
    have hfilled := h.filled
    rw [hexpression] at hfragments hfilled
    refine ⟨_, hmeans, ?_, ?_⟩
    · rw [closeGroup_eq_ok hclose, fragments_closing, hfragments]
      simp [OpenExpression.fragments, OpenExpression.outerFragments,
        Items.fragments_concat, Item.fragments]
    · have hbefore := hfilled.before _ List.mem_cons_self
      have hgroup : (Item.group expression.items).Filled := by
        rw [Item.Filled]
        exact ⟨hne, hfilled.items⟩
      constructor
      · exact Items.Filled.concat hbefore hgroup connector
      · intro enclosing hmem
        exact hfilled.before enclosing (List.mem_cons_of_mem _ hmem)

/-!
## Recorded conditions
-/

def Recorded (conditions : Conditions) : Prop :=
  ∃ expression, conditions.Holds expression

theorem recorded_empty : empty.Recorded :=
  ⟨_, holds_empty⟩

theorem Recorded.render_eq_ok {fragment : Fragment} (h : conditions.Recorded)
    (hrender : conditions.render = .ok fragment) :
    ∃ items, Items.Filled items ∧
      Items.fragments items = conditions.fragments ∧
      (conditions.isEmpty = false → items ≠ []) ∧
      fragment.sql =
        if items = [] then "" else " WHERE " ++ Items.sql items := by
  rcases h with ⟨expression, hholds⟩
  have hclosed : expression.enclosing = [] := by
    have hdepth := hholds.means.depth
    rw [(render_eq_ok_iff.mp hrender).1] at hdepth
    exact List.length_eq_zero_iff.mp hdepth.symm
  rcases hholds.means.render_ok hclosed with ⟨other, hother, hsql, _⟩
  rw [hrender] at hother
  cases hother
  refine ⟨expression.items, hholds.filled.items, ?_, ?_, hsql⟩
  · rw [hholds.fragments, OpenExpression.fragments, hclosed]
    rfl
  · intro hempty hnil
    have hisEmpty := hholds.means.isEmpty
    rw [hempty, hclosed, hnil] at hisEmpty
    cases hisEmpty

end Conditions

namespace FilterCall

variable {settings : Settings} {table : Option Ident}

def compared (settings : Settings) (table : Option Ident) (column : String)
    (operator : Operator) (value : String) : Except Error Fragment := do
  let column ← Column.parse settings table column
  Filter.condition settings.functions column.sql operator value

def condition? (settings : Settings) (table : Option Ident) :
    FilterCall → Option (Except Error Fragment)
  | filter _ column operator value =>
      some do
        let operator ← Operator.parse operator
        compared settings table column operator value
  | filterBy column operator value =>
      some (compared settings table column operator value)
  | openGroup _ | closeGroup => none

theorem addFilter_eq_ok {conditions after : Conditions} {connector : Connector}
    {column value : String} {operator : Operator}
    (h : addFilter settings table conditions connector column operator value =
      .ok after) :
    ∃ fragment, compared settings table column operator value = .ok fragment ∧
      after = conditions.add connector fragment := by
  rcases bind_eq_ok_iff.mp h with ⟨target, htarget, hrest⟩
  rcases bind_eq_ok_iff.mp hrest with ⟨fragment, hfragment, hafter⟩
  cases hafter
  exact ⟨fragment, bind_eq_ok_iff.mpr ⟨target, htarget, hfragment⟩, rfl⟩

/-- What an accepted call does to the conditions. -/
theorem apply_cases {conditions after : Conditions} {call : FilterCall}
    (h : call.apply settings table conditions = .ok after) :
    (∃ connector fragment,
      call.condition? settings table = some (.ok fragment) ∧
        after = conditions.add connector fragment) ∨
    (∃ connector, call = openGroup connector ∧
      after = conditions.openGroup connector) ∨
    (call = closeGroup ∧ conditions.closeGroup = .ok after) := by
  cases call with
  | filter connector column operator value =>
      rcases bind_eq_ok_iff.mp h with ⟨parsed, hparsed, hadd⟩
      rcases addFilter_eq_ok hadd with ⟨fragment, hfragment, rfl⟩
      refine .inl ⟨connector, fragment, ?_, rfl⟩
      rw [condition?, hparsed]
      exact congrArg some hfragment
  | filterBy column operator value =>
      rcases addFilter_eq_ok h with ⟨fragment, hfragment, rfl⟩
      exact .inl ⟨.and, fragment, congrArg some hfragment, rfl⟩
  | openGroup connector =>
      cases h
      exact .inr (.inl ⟨connector, rfl, rfl⟩)
  | closeGroup => exact .inr (.inr ⟨rfl, h⟩)

theorem recorded_apply {conditions after : Conditions} {call : FilterCall}
    (hbefore : conditions.Recorded)
    (h : call.apply settings table conditions = .ok after) :
    after.Recorded := by
  rcases hbefore with ⟨expression, hholds⟩
  rcases apply_cases h with ⟨connector, fragment, _, rfl⟩ |
    ⟨connector, _, rfl⟩ | ⟨_, hclose⟩
  · exact ⟨_, hholds.add connector fragment⟩
  · exact ⟨_, hholds.openGroup connector⟩
  · exact hholds.closeGroup hclose

theorem fragments_apply {conditions after : Conditions} {call : FilterCall}
    (h : call.apply settings table conditions = .ok after) :
    after.fragments.map .ok = conditions.fragments.map .ok ++
      (call.condition? settings table).toList := by
  rcases apply_cases h with ⟨connector, fragment, hcondition, rfl⟩ |
    ⟨connector, rfl, rfl⟩ | ⟨rfl, hclose⟩
  · simp [Conditions.fragments_add, hcondition]
  · simp [Conditions.fragments_openGroup, condition?]
  · rw [Conditions.closeGroup_eq_ok hclose]
    simp [Conditions.fragments_closing, condition?]

theorem isEmpty_apply {conditions after : Conditions} {call : FilterCall}
    (h : call.apply settings table conditions = .ok after) :
    after.isEmpty = false := by
  rcases apply_cases h with ⟨connector, fragment, _, rfl⟩ |
    ⟨connector, _, rfl⟩ | ⟨_, hclose⟩
  · rw [Conditions.add, Conditions.isEmpty_push]
  · rw [Conditions.openGroup, Conditions.isEmpty_push]
  · rw [Conditions.closeGroup_eq_ok hclose, Conditions.isEmpty_push]

end FilterCall

/-!
## Builders
-/

variable {settings : Settings}

theorem SelectCall.conditions_cases {call : SelectCall} {edit : Edit Selection}
    {selection after : Selection} (hmem : edit ∈ call.edits settings)
    (h : edit selection = .ok after) :
    after.conditions = selection.conditions ∨
      ∃ filterCall : FilterCall, call = filter filterCall ∧
        filterCall.apply settings selection.table selection.conditions =
          .ok after.conditions := by
  cases call with
  | filter filterCall =>
      cases List.mem_singleton.mp hmem
      rcases map_eq_ok_iff.mp h with ⟨conditions, happly, rfl⟩
      exact .inr ⟨filterCall, rfl, happly⟩
  | setTable name =>
      cases List.mem_singleton.mp hmem
      unfold Selection.setTable at h
      split at h
      · cases h
      · rcases map_eq_ok_iff.mp h with ⟨table, _, rfl⟩
        exact .inl rfl
  | select columns =>
      rcases List.mem_map.mp hmem with ⟨raw, _, rfl⟩
      rcases Selection.project_eq_ok h with ⟨column, _, _, rfl⟩
      exact .inl rfl
  | join kind table left right =>
      cases List.mem_singleton.mp hmem
      rcases bind_eq_ok_iff.mp h with ⟨parsed, _, hadd⟩
      rcases map_eq_ok_iff.mp hadd with ⟨join, _, rfl⟩
      exact .inl rfl
  | joinAs kind table left right =>
      cases List.mem_singleton.mp hmem
      rcases map_eq_ok_iff.mp h with ⟨join, _, rfl⟩
      exact .inl rfl
  | groupBy columns =>
      rcases List.mem_map.mp hmem with ⟨raw, _, rfl⟩
      rcases map_eq_ok_iff.mp h with ⟨column, _, rfl⟩
      exact .inl rfl
  | orderBy entries =>
      rcases List.mem_map.mp hmem with ⟨raw, _, rfl⟩
      rcases map_eq_ok_iff.mp h with ⟨key, _, rfl⟩
      exact .inl rfl
  | distinct =>
      cases List.mem_singleton.mp hmem
      cases h
      exact .inl rfl
  | limit count =>
      cases List.mem_singleton.mp hmem
      cases h
      exact .inl rfl
  | offset count =>
      cases List.mem_singleton.mp hmem
      cases h
      exact .inl rfl
  | page number size =>
      cases List.mem_singleton.mp hmem
      cases h
      exact .inl rfl

theorem SelectBuilder.recorded_parts (settings : Settings) (table : String)
    (calls : List SelectCall) :
    ((start settings table).recordAll
      calls).recording.parts.conditions.Recorded := by
  rcases parts_start settings table with ⟨owner, hstart⟩
  rw [recordAll_eq]
  apply Recording.attemptAll_keeps
    (P := fun selection : Selection => selection.conditions.Recorded)
  · rw [hstart]
    exact Conditions.recorded_empty
  · intro edit hedit selection after hrecorded hafter
    rcases List.mem_flatMap.mp hedit with ⟨call, _, hmem⟩
    rcases SelectCall.conditions_cases hmem hafter with
      hsame | ⟨filterCall, _, happly⟩
    · rw [hsame]
      exact hrecorded
    · exact FilterCall.recorded_apply hrecorded happly

theorem UpdateBuilder.recorded_parts (settings : Settings) (table : String)
    (calls : List UpdateCall) :
    ((start settings table).recordAll
      calls).recording.parts.conditions.Recorded := by
  rcases parts_start settings table with ⟨owner, hstart⟩
  rw [recordAll_eq]
  apply Recording.attemptAll_keeps
    (P := fun update : Update => update.conditions.Recorded)
  · rw [hstart]
    exact Conditions.recorded_empty
  · intro edit hedit update after hrecorded hafter
    rcases List.mem_map.mp hedit with ⟨call, _, rfl⟩
    cases call with
    | assign call =>
        rcases map_eq_ok_iff.mp hafter with ⟨assignments, _, rfl⟩
        exact hrecorded
    | filter call =>
        rcases map_eq_ok_iff.mp hafter with ⟨conditions, happly, rfl⟩
        exact FilterCall.recorded_apply hrecorded happly

theorem DeleteBuilder.recorded_parts (settings : Settings) (table : String)
    (calls : List DeleteCall) :
    ((start settings table).recordAll
      calls).recording.parts.conditions.Recorded := by
  rcases parts_start settings table with ⟨owner, hstart⟩
  rw [recordAll_eq]
  apply Recording.attemptAll_keeps
    (P := fun deletion : Deletion => deletion.conditions.Recorded)
  · rw [hstart]
    exact Conditions.recorded_empty
  · intro edit hedit deletion after hrecorded hafter
    rcases List.mem_map.mp hedit with ⟨call, _, rfl⟩
    cases call with
    | allowAllRows allow =>
        cases hafter
        exact hrecorded
    | filter call =>
        rcases map_eq_ok_iff.mp hafter with ⟨conditions, happly, rfl⟩
        exact FilterCall.recorded_apply hrecorded happly

end SqlAssembler
