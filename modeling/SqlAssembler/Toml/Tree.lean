import SqlAssembler.Toml.Basic

/-!
# Putting a document together

The lines of a document define a tree of tables. What a later line may add to a
table depends on how the table came about: a header opens a table once, the
tables that lead to it are merely implied and may still get a header, and the
tables along a dotted key can be extended by dotted keys only. Values, inline
tables among them, are never extended. The last element of an array of tables
stands for it in every path.
-/

namespace SqlAssembler
namespace Toml

inductive Origin where
  | header
  | implied
  | dotted
  deriving DecidableEq, Repr

inductive Node where
  | leaf (value : Toml)
  | table (origin : Origin) (entries : List (String × Node))
  | tables (elements : List (List (String × Node)))

abbrev Branch := List (String × Node)

namespace Branch

def get? (branch : Branch) (name : String) : Option Node :=
  (branch.find? fun entry => entry.1 = name).map Prod.snd

def set (branch : Branch) (name : String) (node : Node) : Branch :=
  match branch with
  | [] => [(name, node)]
  | (key, old) :: rest =>
      if key = name then (key, node) :: rest
      else (key, old) :: set rest name node

def changeLast (change : Branch → Option Branch) :
    List Branch → Option (List Branch)
  | [] => none
  | [last] => (change last).map fun last => [last]
  | head :: rest => (changeLast change rest).map fun rest => head :: rest

/-- Gives a key path its value. `origin` tells how the table came about that the
rest of the path starts from; `wanted` tells which table may hold the value. -/
def assign (value : Toml) (wanted : Origin → Bool) (origin : Origin) :
    List String → Branch → Option Branch
  | [], _ => none
  | [key], branch =>
      if wanted origin && (branch.get? key).isNone then
        some (branch.set key (.leaf value))
      else none
  | key :: rest, branch =>
      match branch.get? key with
      | none =>
          (assign value wanted .dotted rest []).map fun inner =>
            branch.set key (.table .dotted inner)
      | some (.table .header _) => none
      | some (.table origin inner) =>
          (assign value wanted origin rest inner).map fun inner =>
            branch.set key (.table origin inner)
      | some (.tables elements) =>
          let changed := changeLast (assign value wanted .header rest) elements
          changed.map fun elements => branch.set key (.tables elements)
      | some (.leaf _) => none

/-- A single key belongs to the table it is written in, a dotted key to a table
that dotted keys made. -/
def assignPath (value : Toml) (path : List String) (branch : Branch) :
    Option Branch :=
  if path.length ≤ 1 then assign value (fun _ => true) .header path branch
  else assign value (· == .dotted) .header path branch

def changeAt (change : Option Node → Option Node) :
    List String → Branch → Option Branch
  | [], _ => none
  | [key], branch => (change (branch.get? key)).map (branch.set key)
  | key :: rest, branch =>
      match branch.get? key with
      | none =>
          (changeAt change rest []).map fun inner =>
            branch.set key (.table .implied inner)
      | some (.table origin inner) =>
          (changeAt change rest inner).map fun inner =>
            branch.set key (.table origin inner)
      | some (.tables elements) =>
          (changeLast (changeAt change rest) elements).map fun elements =>
            branch.set key (.tables elements)
      | some (.leaf _) => none

end Branch

namespace Node

/-- A header opens a table that is not there, or one that was only implied. -/
def opened : Option Node → Option Node
  | none => some (.table .header [])
  | some (.table .implied branch) => some (.table .header branch)
  | _ => none

def appended : Option Node → Option Node
  | none => some (.tables [[]])
  | some (.tables elements) => some (.tables (elements ++ [[]]))
  | _ => none

def assigned (path : List String) (value : Toml) : Option Node → Option Node
  | some (.table origin branch) =>
      (Branch.assignPath value path branch).map (.table origin)
  | some (.tables elements) =>
      (Branch.changeLast (Branch.assignPath value path) elements).map .tables
  | _ => none

mutual

def toToml : Node → Toml
  | leaf value => value
  | table _ branch => .table (entriesToToml branch)
  | tables elements => .array (elementsToToml elements)

def entriesToToml : List (String × Node) → List (String × Toml)
  | [] => []
  | (key, node) :: rest => (key, toToml node) :: entriesToToml rest

def elementsToToml : List (List (String × Node)) → List Toml
  | [] => []
  | branch :: rest => .table (entriesToToml branch) :: elementsToToml rest

end

end Node

/-!
## Lines
-/

inductive Line where
  | header (path : List String)
  | arrayHeader (path : List String)
  | assignment (path : List String) (value : Toml)

structure Draft where
  root : Branch
  current : List String

def Draft.add (draft : Draft) : Line → Option Draft
  | .header path =>
      (draft.root.changeAt Node.opened path).map fun root => ⟨root, path⟩
  | .arrayHeader path =>
      (draft.root.changeAt Node.appended path).map fun root => ⟨root, path⟩
  | .assignment path value =>
      let root :=
        if draft.current.isEmpty then draft.root.assignPath value path
        else draft.root.changeAt (Node.assigned path value) draft.current
      root.map fun root => { draft with root }

def ofLines (lines : List Line) : Option Entries :=
  (lines.foldlM Draft.add ⟨[], []⟩).map fun draft =>
    Node.entriesToToml draft.root

def ofAssignments (assignments : List (List String × Toml)) : Option Entries :=
  ofLines (assignments.map fun (path, value) => .assignment path value)

end Toml
end SqlAssembler
