import Mathlib
import SqlAssembler.Conditions

/-!
# Conditions as nested expressions

The recorded nodes are a flat list, but they mean a nested expression: a list of
conditions and groups, each with the connector that its caller chose, where a
group is such a list again. The reference builds the expression itself. It keeps
a stack of the lists whose groups are still open, and prints an expression by
recursion. After any calls, the flat list and the expression agree in what the
next call does and in what is written.
-/

namespace SqlAssembler

/-!
## Expressions
-/

inductive Item where
  | condition (fragment : Fragment)
  | group (items : List (Connector × Item))

/-- Items, each with the connector that its caller chose. -/
abbrev Items := List (Connector × Item)

def Connector.spaced (connector : Connector) : String :=
  " " ++ connector.sql ++ " "

mutual

def Item.sql : Item → String
  | .condition fragment => fragment.sql
  | .group items => "(" ++ Items.sql items ++ ")"

def Items.sql : Items → String
  | [] => ""
  | (_, item) :: rest => item.sql ++ Items.laterSql rest

def Items.laterSql : Items → String
  | [] => ""
  | (connector, item) :: rest =>
      connector.spaced ++ item.sql ++ Items.laterSql rest

end

mutual

def Item.params : Item → List Param
  | .condition fragment => fragment.params
  | .group items => Items.params items

def Items.params : Items → List Param
  | [] => []
  | (_, item) :: rest => item.params ++ Items.params rest

end

structure Enclosing where
  before : Items
  connector : Connector

/-- An expression some groups of which may be open: the items of the innermost
one, and what encloses it, from the inside out. -/
structure OpenExpression where
  items : Items
  enclosing : List Enclosing

namespace OpenExpression

def empty : OpenExpression :=
  ⟨[], []⟩

def add (expression : OpenExpression) (connector : Connector)
    (fragment : Fragment) : OpenExpression :=
  { expression with
    items := expression.items ++ [(connector, .condition fragment)] }

def openGroup (expression : OpenExpression) (connector : Connector) :
    OpenExpression :=
  ⟨[], ⟨expression.items, connector⟩ :: expression.enclosing⟩

def closeGroup (expression : OpenExpression) : Except Error OpenExpression :=
  match expression.enclosing with
  | [] => .error (.unbalancedGroup .endWithoutStart)
  | ⟨before, connector⟩ :: outer =>
      if expression.items.isEmpty then .error .emptyGroup
      else .ok ⟨before ++ [(connector, .group expression.items)], outer⟩

end OpenExpression

/-!
## Calls
-/

inductive GroupCall where
  | add (connector : Connector) (fragment : Fragment)
  | openGroup (connector : Connector)
  | closeGroup

def Conditions.record (conditions : Conditions) : GroupCall → Conditions
  | .add connector fragment => conditions.add connector fragment
  | .openGroup connector => conditions.openGroup connector
  | .closeGroup => conditions.closeGroup.toOption.getD conditions

def OpenExpression.record (expression : OpenExpression) :
    GroupCall → OpenExpression
  | .add connector fragment => expression.add connector fragment
  | .openGroup connector => expression.openGroup connector
  | .closeGroup => expression.closeGroup.toOption.getD expression

/-!
## What stands in an open expression
-/

namespace Items

def lead (items : Items) (connector : Connector) : String :=
  if items.isEmpty then "" else connector.spaced

theorem laterSql_append (items more : Items) :
    laterSql (items ++ more) = laterSql items ++ laterSql more := by
  induction items with
  | nil => simp [laterSql]
  | cons first rest ih =>
      rcases first with ⟨connector, item⟩
      simp [laterSql, ih, String.append_assoc]

theorem sql_concat (items : Items) (connector : Connector) (item : Item) :
    Items.sql (items ++ [(connector, item)]) =
      Items.sql items ++ lead items connector ++ item.sql := by
  cases items with
  | nil => simp [Items.sql, laterSql, lead]
  | cons first rest =>
      rcases first with ⟨firstConnector, firstItem⟩
      simp [Items.sql, laterSql_append, laterSql, lead, String.append_assoc]

theorem params_append (items more : Items) :
    Items.params (items ++ more) =
      Items.params items ++ Items.params more := by
  induction items with
  | nil => simp [Items.params]
  | cons first rest ih =>
      rcases first with ⟨connector, item⟩
      simp [Items.params, ih]

end Items

def Enclosing.sql (enclosing : Enclosing) : String :=
  Items.sql enclosing.before ++
    Items.lead enclosing.before enclosing.connector ++ "("

namespace OpenExpression

def outerSql : List Enclosing → String
  | [] => ""
  | enclosing :: outer => outerSql outer ++ enclosing.sql

def outerParams : List Enclosing → List Param
  | [] => []
  | enclosing :: outer => outerParams outer ++ Items.params enclosing.before

def sql (expression : OpenExpression) : String :=
  outerSql expression.enclosing ++ Items.sql expression.items

def params (expression : OpenExpression) : List Param :=
  outerParams expression.enclosing ++ Items.params expression.items

theorem sql_add (expression : OpenExpression) (connector : Connector)
    (fragment : Fragment) :
    (expression.add connector fragment).sql =
      expression.sql ++ Items.lead expression.items connector ++
        fragment.sql := by
  simp [sql, add, Items.sql_concat, Item.sql, String.append_assoc]

theorem sql_openGroup (expression : OpenExpression) (connector : Connector) :
    (expression.openGroup connector).sql =
      expression.sql ++ Items.lead expression.items connector ++ "(" := by
  simp [sql, openGroup, outerSql, Enclosing.sql, Items.sql,
    String.append_assoc]

end OpenExpression

/-!
## Agreement
-/

namespace Conditions

structure Means (conditions : Conditions) (expression : OpenExpression) :
    Prop where
  depth : conditions.depth = expression.enclosing.length
  isEmpty : conditions.isEmpty =
    (expression.enclosing.isEmpty && expression.items.isEmpty)
  endsOpening : conditions.endsOpening =
    (!expression.enclosing.isEmpty && expression.items.isEmpty)
  sql : Fragment.sql (conditions.nodes.flatMap nodePieces) = expression.sql
  params : conditions.nodes.flatMap nodeParams = expression.params

theorem means_empty : empty.Means .empty :=
  ⟨rfl, rfl, rfl, rfl, rfl⟩

variable {conditions : Conditions} {expression : OpenExpression}

theorem Means.sql_connectorFor (h : conditions.Means expression)
    (connector : Connector) :
    Fragment.sql (connectorPieces (conditions.connectorFor connector)) =
      Items.lead expression.items connector := by
  rw [connectorFor, Items.lead, h.isEmpty, h.endsOpening]
  cases expression.enclosing.isEmpty <;> cases expression.items.isEmpty <;>
    simp [connectorPieces, Fragment.sql, Piece.sql, Connector.spaced]

theorem isEmpty_push (conditions : Conditions) (node : Node) :
    (conditions.push node).isEmpty = false := by
  simp [isEmpty, push]

theorem endsOpening_push (conditions : Conditions) (node : Node) :
    (conditions.push node).endsOpening =
      match node with
      | .opening _ => true
      | _ => false := by
  simp only [endsOpening, push, List.getLast?_concat]
  cases node <;> rfl

theorem sql_push (conditions : Conditions) (node : Node) :
    Fragment.sql ((conditions.push node).nodes.flatMap nodePieces) =
      Fragment.sql (conditions.nodes.flatMap nodePieces) ++
        Fragment.sql (nodePieces node) := by
  simp [push]

theorem params_push (conditions : Conditions) (node : Node) :
    (conditions.push node).nodes.flatMap nodeParams =
      conditions.nodes.flatMap nodeParams ++ nodeParams node := by
  simp [push]

theorem Means.add (h : conditions.Means expression) (connector : Connector)
    (fragment : Fragment) :
    (conditions.add connector fragment).Means
      (expression.add connector fragment) := by
  constructor
  · rw [depth_add, h.depth]
    rfl
  · rw [Conditions.add, isEmpty_push]
    simp [OpenExpression.add]
  · rw [Conditions.add, endsOpening_push]
    simp [OpenExpression.add]
  · rw [Conditions.add, sql_push, h.sql, OpenExpression.sql_add, nodePieces,
      Fragment.sql_append, h.sql_connectorFor, String.append_assoc]
  · rw [Conditions.add, params_push, h.params]
    simp [nodeParams, OpenExpression.params, OpenExpression.add,
      Items.params_append, Items.params, Item.params]

theorem Means.openGroup (h : conditions.Means expression)
    (connector : Connector) :
    (conditions.openGroup connector).Means
      (expression.openGroup connector) := by
  constructor
  · rw [depth_openGroup, h.depth]
    rfl
  · rw [Conditions.openGroup, isEmpty_push]
    rfl
  · rw [Conditions.openGroup, endsOpening_push]
    rfl
  · rw [Conditions.openGroup, sql_push, h.sql, OpenExpression.sql_openGroup,
      nodePieces, Fragment.sql_append, h.sql_connectorFor, String.append_assoc]
    simp [Fragment.sql, Piece.sql]
  · rw [Conditions.openGroup, params_push, h.params]
    simp [nodeParams, OpenExpression.params, OpenExpression.openGroup,
      OpenExpression.outerParams, Items.params]

theorem Means.push_closing {items before : Items} {connector : Connector}
    {outer : List Enclosing}
    (h : conditions.Means ⟨items, ⟨before, connector⟩ :: outer⟩) :
    (conditions.push .closing).Means
      ⟨before ++ [(connector, .group items)], outer⟩ := by
  constructor
  · rw [depth_push, h.depth]
    rfl
  · rw [isEmpty_push]
    simp
  · rw [endsOpening_push]
    simp
  · rw [sql_push, h.sql]
    simp [OpenExpression.sql, OpenExpression.outerSql, Enclosing.sql,
      Items.sql_concat, Item.sql, nodePieces, Fragment.sql, Piece.sql,
      String.append_assoc]
  · rw [params_push, h.params]
    simp [nodeParams, OpenExpression.params, OpenExpression.outerParams,
      Items.params_append, Items.params, Item.params]

theorem Means.closeGroup (h : conditions.Means expression) :
    (∃ error, conditions.closeGroup = .error error ∧
      expression.closeGroup = .error error) ∨
    ∃ after next, conditions.closeGroup = .ok after ∧
      expression.closeGroup = .ok next ∧ after.Means next := by
  rcases expression with ⟨items, enclosing⟩
  rw [Conditions.closeGroup, h.depth, h.endsOpening]
  cases enclosing with
  | nil => exact .inl ⟨_, rfl, rfl⟩
  | cons innermost outer =>
      cases hempty : items.isEmpty with
      | true =>
          left
          refine ⟨.emptyGroup, by simp, ?_⟩
          simp [OpenExpression.closeGroup, hempty]
      | false =>
          right
          refine ⟨conditions.push .closing, _, by simp, ?_, h.push_closing⟩
          simp [OpenExpression.closeGroup, hempty]

/-- One call keeps the agreement, whether it is refused or not. -/
theorem Means.record (h : conditions.Means expression) (call : GroupCall) :
    (conditions.record call).Means (expression.record call) := by
  cases call with
  | add connector fragment => exact h.add connector fragment
  | openGroup connector => exact h.openGroup connector
  | closeGroup =>
      rw [Conditions.record, OpenExpression.record]
      rcases h.closeGroup with ⟨error, hleft, hright⟩ |
        ⟨after, next, hleft, hright, hafter⟩
      · rw [hleft, hright]
        exact h
      · rw [hleft, hright]
        exact hafter

theorem Means.foldl (h : conditions.Means expression)
    (calls : List GroupCall) :
    (calls.foldl Conditions.record conditions).Means
      (calls.foldl OpenExpression.record expression) := by
  induction calls generalizing conditions expression with
  | nil => exact h
  | cons call rest ih => exact ih (h.record call)

/-!
## What the agreement says
-/

theorem Means.closeGroup_error_iff (h : conditions.Means expression)
    (error : Error) :
    conditions.closeGroup = .error error ↔
      (expression.enclosing = [] ∧
        error = .unbalancedGroup .endWithoutStart) ∨
      (expression.enclosing ≠ [] ∧ expression.items = [] ∧
        error = .emptyGroup) := by
  rcases expression with ⟨items, enclosing⟩
  rw [Conditions.closeGroup, h.depth, h.endsOpening]
  cases enclosing <;> cases items <;> simp [eq_comm]

theorem Means.render_error_iff (h : conditions.Means expression)
    (error : Error) :
    conditions.render = .error error ↔
      expression.enclosing ≠ [] ∧
        error = .unbalancedGroup (.leftOpen expression.enclosing.length) := by
  rw [render, h.depth]
  cases expression.enclosing with
  | nil =>
      simp only [List.length_nil, ne_eq, not_true_eq_false, false_and, if_false]
      split <;> simp
  | cons innermost outer => simp [eq_comm]

theorem Means.render_ok (h : conditions.Means expression)
    (hclosed : expression.enclosing = []) :
    ∃ fragment, conditions.render = .ok fragment ∧
      fragment.sql = (if expression.items = [] then ""
        else " WHERE " ++ Items.sql expression.items) ∧
      fragment.params = Items.params expression.items := by
  rcases expression with ⟨items, enclosing⟩
  cases hclosed
  have hparams := h.params
  rw [OpenExpression.params, OpenExpression.outerParams, List.nil_append]
    at hparams
  rw [render, h.depth, h.isEmpty]
  cases items with
  | nil => exact ⟨[], rfl, rfl, by simp [Items.params]⟩
  | cons first rest =>
      refine ⟨_, rfl, ?_, ?_⟩
      · rw [Fragment.sql_cons, h.sql]
        simp [OpenExpression.sql, OpenExpression.outerSql, Piece.sql]
      · simp [hparams]

end Conditions

/-- After any calls, refused ones included, the flat list of conditions does and
writes what the nested expression does. -/
theorem Conditions.foldl_record_refines (calls : List GroupCall) :
    let conditions := calls.foldl Conditions.record .empty
    let expression := calls.foldl OpenExpression.record .empty
    (∀ error, conditions.closeGroup = .error error ↔
      (expression.enclosing = [] ∧
        error = .unbalancedGroup .endWithoutStart) ∨
      (expression.enclosing ≠ [] ∧ expression.items = [] ∧
        error = .emptyGroup)) ∧
    conditions.depth = expression.enclosing.length ∧
    (∀ error, conditions.render = .error error ↔
      expression.enclosing ≠ [] ∧
        error = .unbalancedGroup (.leftOpen expression.enclosing.length)) ∧
    (expression.enclosing = [] → ∃ fragment,
      conditions.render = .ok fragment ∧
      fragment.sql = (if expression.items = [] then ""
        else " WHERE " ++ Items.sql expression.items) ∧
      fragment.params = Items.params expression.items ∧
      conditions.valueCount = fragment.params.length) ∧
    conditions.valueCount = expression.params.length := by
  intro conditions expression
  have h : conditions.Means expression := Conditions.means_empty.foldl calls
  have hcount : conditions.valueCount = expression.params.length :=
    congrArg List.length h.params
  refine ⟨h.closeGroup_error_iff, h.depth, h.render_error_iff, ?_, hcount⟩
  intro hclosed
  rcases h.render_ok hclosed with ⟨fragment, hrender, hsql, hparams⟩
  refine ⟨fragment, hrender, hsql, hparams, ?_⟩
  rw [Conditions.valueCount, ← Conditions.params_render hrender]

/-- Groups in a group, with a refused closing in between. -/
theorem Conditions.render_of_nested_groups :
    ∃ fragment,
      Conditions.render ([GroupCall.openGroup .and,
          .add .or [.text "a = ", .slot (.int 1)], .openGroup .or, .closeGroup,
          .add .and [.text "b = ", .slot (.int 2)], .closeGroup, .closeGroup,
          .add .or [.text "c = ", .slot (.int 3)]].foldl
            Conditions.record .empty) = .ok fragment ∧
        fragment.sql = " WHERE (a = ? OR (b = ?)) OR c = ?" ∧
        fragment.params = [.int 1, .int 2, .int 3] := by
  rcases (Conditions.foldl_record_refines [.openGroup .and,
      .add .or [.text "a = ", .slot (.int 1)], .openGroup .or, .closeGroup,
      .add .and [.text "b = ", .slot (.int 2)], .closeGroup, .closeGroup,
      .add .or [.text "c = ", .slot (.int 3)]]).2.2.2.1 rfl with
      ⟨fragment, hrender, hsql, hparams, _⟩
  refine ⟨fragment, hrender, hsql.trans ?_, hparams.trans ?_⟩
  · cbv
  · cbv

end SqlAssembler
