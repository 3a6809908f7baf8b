import SqlAssembler.Error
import SqlAssembler.Statement
import SqlAssembler.Text.Blank
import SqlAssembler.Text.Word

/-!
# Grouped conditions

The conditions of a statement are recorded as a flat list of nodes: conditions,
openings and closings of groups. Whether a connector is written in front of a
node is decided when the node is added: the first node and a node right after an
opening get none. A group that is closed holds at least one condition, and no
group may be left open when the conditions are written.
-/

namespace SqlAssembler

open Text

inductive Connector where
  | and
  | or
  deriving DecidableEq, Repr

namespace Connector

def sql : Connector → String
  | and => "AND"
  | or => "OR"

def parse (text : String) : Except Error Connector :=
  let word := String.ofList (upper (trim text.toList))
  if word = "AND" then .ok and
  else if word = "OR" then .ok or
  else .error (.validation (.connector text))

end Connector

inductive Node where
  | opening (connector : Option Connector)
  | closing
  | condition (connector : Option Connector) (fragment : Fragment)

def Node.depthAfter (depth : Nat) : Node → Nat
  | opening _ => depth + 1
  | closing => depth - 1
  | condition _ _ => depth

/-- The number of open groups is counted along with the nodes. -/
structure Conditions where
  nodes : List Node
  depth : Nat
  counted : depth = nodes.foldl Node.depthAfter 0

namespace Conditions

theorem eq_of_nodes {conditions other : Conditions}
    (h : conditions.nodes = other.nodes) : conditions = other := by
  rcases conditions with ⟨nodes, depth, rfl⟩
  rcases other with ⟨others, otherDepth, rfl⟩
  cases h
  rfl

def empty : Conditions :=
  ⟨[], 0, rfl⟩

def isEmpty (conditions : Conditions) : Bool :=
  conditions.nodes.isEmpty

def endsOpening (conditions : Conditions) : Bool :=
  match conditions.nodes.getLast? with
  | some (.opening _) => true
  | _ => false

def push (conditions : Conditions) (node : Node) : Conditions where
  nodes := conditions.nodes ++ [node]
  depth := node.depthAfter conditions.depth
  counted := by
    rw [List.foldl_append, ← conditions.counted]
    rfl

def connectorFor (conditions : Conditions) (connector : Connector) :
    Option Connector :=
  if conditions.isEmpty || conditions.endsOpening then none else some connector

def add (conditions : Conditions) (connector : Connector)
    (fragment : Fragment) : Conditions :=
  conditions.push (.condition (conditions.connectorFor connector) fragment)

def openGroup (conditions : Conditions) (connector : Connector) : Conditions :=
  conditions.push (.opening (conditions.connectorFor connector))

def closeGroup (conditions : Conditions) : Except Error Conditions :=
  if conditions.depth = 0 then .error (.unbalancedGroup .endWithoutStart)
  else if conditions.endsOpening then .error .emptyGroup
  else .ok (conditions.push .closing)

@[simp]
theorem depth_push (conditions : Conditions) (node : Node) :
    (conditions.push node).depth = node.depthAfter conditions.depth :=
  rfl

@[simp]
theorem depth_add (conditions : Conditions) (connector : Connector)
    (fragment : Fragment) :
    (conditions.add connector fragment).depth = conditions.depth :=
  rfl

@[simp]
theorem depth_openGroup (conditions : Conditions) (connector : Connector) :
    (conditions.openGroup connector).depth = conditions.depth + 1 :=
  rfl

/-!
## Writing
-/

def connectorPieces : Option Connector → Fragment
  | none => []
  | some connector => [.text (" " ++ connector.sql ++ " ")]

def nodePieces : Node → Fragment
  | .opening connector => connectorPieces connector ++ [.text "("]
  | .closing => [.text ")"]
  | .condition connector fragment => connectorPieces connector ++ fragment

def nodeParams : Node → List Param
  | .condition _ fragment => fragment.params
  | _ => []

def valueCount (conditions : Conditions) : Nat :=
  (conditions.nodes.flatMap nodeParams).length

/-- ` WHERE ` and the conditions; nothing at all if there are none. -/
def render (conditions : Conditions) : Except Error Fragment :=
  if conditions.depth ≠ 0 then
    .error (.unbalancedGroup (.leftOpen conditions.depth))
  else if conditions.isEmpty then .ok []
  else .ok (.text " WHERE " :: conditions.nodes.flatMap nodePieces)

@[simp]
theorem params_connectorPieces (connector : Option Connector) :
    Fragment.params (connectorPieces connector) = [] := by
  cases connector <;> rfl

@[simp]
theorem params_nodePieces (node : Node) :
    Fragment.params (nodePieces node) = nodeParams node := by
  cases node <;> simp [nodePieces, nodeParams]

theorem render_eq_ok_iff {conditions : Conditions}
    {fragment : Fragment} :
    conditions.render = .ok fragment ↔
      conditions.depth = 0 ∧
        fragment = if conditions.isEmpty then []
          else .text " WHERE " :: conditions.nodes.flatMap nodePieces := by
  rw [render]
  by_cases hdepth : conditions.depth = 0
  · rw [if_neg (by simpa using hdepth)]
    cases conditions.isEmpty <;> simp [hdepth, eq_comm]
  · simp [hdepth]

theorem params_render {conditions : Conditions} {fragment : Fragment}
    (h : conditions.render = .ok fragment) :
    fragment.params = conditions.nodes.flatMap nodeParams := by
  obtain ⟨_, rfl⟩ := render_eq_ok_iff.mp h
  split
  · rename_i hempty
    rw [List.isEmpty_iff.mp hempty]
    rfl
  · simp

end Conditions
end SqlAssembler
