import SqlAssembler.Conditions
import SqlAssembler.Proofs.Results

/-!
# The shape of conditions

What is accepted next depends on the openings and closings that were recorded,
on the connectors between them and on how many conditions there are, but not on
what the conditions say. So other fragments in the same places change nothing
but the text and the values in the end.
-/

namespace SqlAssembler

def Node.mapFragment (f : Fragment → Fragment) : Node → Node
  | .opening connector => .opening connector
  | .closing => .closing
  | .condition connector fragment => .condition connector (f fragment)

theorem Node.depthAfter_mapFragment (f : Fragment → Fragment) (depth : Nat)
    (node : Node) :
    (node.mapFragment f).depthAfter depth = node.depthAfter depth := by
  cases node <;> rfl

namespace Conditions

def mapFragments (f : Fragment → Fragment) (conditions : Conditions) :
    Conditions where
  nodes := conditions.nodes.map (Node.mapFragment f)
  depth := conditions.depth
  counted := by
    rw [List.foldl_map, conditions.counted]
    simp only [Node.depthAfter_mapFragment]

variable (f : Fragment → Fragment) (conditions : Conditions)

theorem mapFragments_push (node : Node) :
    (conditions.push node).mapFragments f =
      (conditions.mapFragments f).push (node.mapFragment f) := by
  apply eq_of_nodes
  simp [mapFragments, push]

theorem isEmpty_mapFragments :
    (conditions.mapFragments f).isEmpty = conditions.isEmpty := by
  simp [mapFragments, isEmpty]

theorem depth_mapFragments :
    (conditions.mapFragments f).depth = conditions.depth :=
  rfl

theorem endsOpening_mapFragments :
    (conditions.mapFragments f).endsOpening = conditions.endsOpening := by
  rw [endsOpening, endsOpening, mapFragments, List.getLast?_map]
  cases conditions.nodes.getLast? with
  | none => rfl
  | some node => cases node <;> rfl

theorem connectorFor_mapFragments (connector : Connector) :
    (conditions.mapFragments f).connectorFor connector =
      conditions.connectorFor connector := by
  rw [connectorFor, connectorFor, isEmpty_mapFragments,
    endsOpening_mapFragments]

theorem add_mapFragments (connector : Connector) (fragment : Fragment) :
    (conditions.mapFragments f).add connector (f fragment) =
      (conditions.add connector fragment).mapFragments f := by
  rw [add, add, mapFragments_push, connectorFor_mapFragments]
  rfl

theorem openGroup_mapFragments (connector : Connector) :
    (conditions.mapFragments f).openGroup connector =
      (conditions.openGroup connector).mapFragments f := by
  rw [openGroup, openGroup, mapFragments_push, connectorFor_mapFragments]
  rfl

theorem closeGroup_mapFragments :
    (conditions.mapFragments f).closeGroup =
      conditions.closeGroup.map (mapFragments f) := by
  rw [closeGroup, closeGroup, depth_mapFragments, endsOpening_mapFragments]
  split
  · rfl
  · split
    · rfl
    · show Except.ok _ = Except.ok _
      rw [mapFragments_push]
      rfl

end Conditions
end SqlAssembler
