import Mathlib.Data.List.Forall2
import SqlAssembler.Builder.Delete
import SqlAssembler.Builder.Insert
import SqlAssembler.Builder.Update
import SqlAssembler.Proofs.Results

/-!
# Parts that differ in values only

Two fragments are alike if they are the same but for the values in their slots.
Parts of a statement are alike if their fragments are, and alike parts are
written as alike fragments or not written for the same reason. So of two runs
that record alike parts, nobody who sees the text alone can tell one from the
other.
-/

namespace SqlAssembler

/-!
## Results of two runs
-/

/-- Both results are the same error, or both are values and related. -/
inductive Agree {ε α β : Type} (R : α → β → Prop) :
    Except ε α → Except ε β → Prop where
  | error (e : ε) : Agree R (.error e) (.error e)
  | ok {a : α} {b : β} (h : R a b) : Agree R (.ok a) (.ok b)

abbrev SameError {ε α β : Type} (x : Except ε α) (y : Except ε β) : Prop :=
  Agree (fun _ _ => True) x y

namespace Agree

variable {ε α β γ δ : Type} {R : α → β → Prop} {S : γ → δ → Prop}

theorem cases {x : Except ε α} {y : Except ε β} (h : Agree R x y) :
    (∃ e, x = .error e ∧ y = .error e) ∨
      ∃ a b, x = .ok a ∧ y = .ok b ∧ R a b := by
  cases h with
  | error e => exact .inl ⟨e, rfl, rfl⟩
  | ok hab => exact .inr ⟨_, _, rfl, rfl, hab⟩

theorem of_map_eq {x : Except ε α} {y : Except ε β} {f : α → γ} {g : β → γ}
    (h : x.map f = y.map g) : Agree (fun a b => f a = g b) x y := by
  cases x with
  | error e =>
      cases map_eq_error_iff.mp h.symm
      exact .error e
  | ok a =>
      rcases map_eq_ok_iff.mp h.symm with ⟨b, rfl, hab⟩
      exact .ok hab

theorem bind {x : Except ε α} {y : Except ε β} {f : α → Except ε γ}
    {g : β → Except ε δ} (h : Agree R x y)
    (hnext : ∀ a b, R a b → Agree S (f a) (g b)) :
    Agree S (x >>= f) (y >>= g) := by
  cases h with
  | error e => exact .error e
  | ok hab => exact hnext _ _ hab

theorem map {x : Except ε α} {y : Except ε β} {f : α → γ} {g : β → δ}
    (h : Agree R x y) (hnext : ∀ a b, R a b → S (f a) (g b)) :
    Agree S (x.map f) (y.map g) := by
  cases h with
  | error e => exact .error e
  | ok hab => exact .ok (hnext _ _ hab)

theorem same {R : α → α → Prop} (h : ∀ a, R a a) (x : Except ε α) :
    Agree R x x := by
  cases x with
  | error e => exact .error e
  | ok a => exact .ok (h a)

theorem map_same {x : Except ε α} {f : α → γ} {g : α → δ}
    (h : ∀ a, S (f a) (g a)) : Agree S (x.map f) (x.map g) := by
  cases x with
  | error e => exact .error e
  | ok a => exact .ok (h a)

theorem bind_same {x : Except ε α} {f : α → Except ε γ} {g : α → Except ε δ}
    (h : ∀ a, x = .ok a → Agree S (f a) (g a)) :
    Agree S (x >>= f) (x >>= g) := by
  cases x with
  | error e => exact .error e
  | ok a => exact h a rfl

end Agree

/-!
## Fragments
-/

inductive Piece.Alike : Piece → Piece → Prop where
  | same (piece : Piece) : Alike piece piece
  | slot (value other : Param) : Alike (.slot value) (.slot other)

def Fragment.Alike : Fragment → Fragment → Prop :=
  List.Forall₂ Piece.Alike

theorem Piece.Alike.sql_eq {piece other : Piece} (h : piece.Alike other) :
    piece.sql = other.sql := by
  cases h <;> rfl

theorem Piece.Alike.length_params {piece other : Piece}
    (h : piece.Alike other) : piece.params.length = other.params.length := by
  cases h <;> rfl

namespace Fragment

theorem Alike.refl (fragment : Fragment) : fragment.Alike fragment :=
  List.forall₂_same.mpr fun piece _ => .same piece

theorem Alike.append {left left' right right' : Fragment}
    (hleft : left.Alike left') (hright : right.Alike right') :
    Alike (left ++ right) (left' ++ right') :=
  List.rel_append hleft hright

theorem Alike.cons_text {rest rest' : Fragment} (text : String)
    (h : rest.Alike rest') :
    Alike (.text text :: rest) (.text text :: rest') :=
  .cons (.same _) h

theorem alike_slot (value other : Param) : Alike [.slot value] [.slot other] :=
  .cons (.slot value other) .nil

theorem Alike.sql_eq {fragment other : Fragment} (h : fragment.Alike other) :
    fragment.sql = other.sql := by
  induction h with
  | nil => rfl
  | cons hpiece _ ih => rw [sql_cons, sql_cons, hpiece.sql_eq, ih]

theorem Alike.length_params {fragment other : Fragment}
    (h : fragment.Alike other) :
    fragment.params.length = other.params.length := by
  induction h with
  | nil => rfl
  | cons hpiece _ ih =>
      rw [params_cons, params_cons, List.length_append, List.length_append,
        hpiece.length_params, ih]

theorem Alike.separated {fragments others : List Fragment}
    (separator : String) (h : List.Forall₂ Alike fragments others) :
    Alike (separated separator fragments) (separated separator others) := by
  induction h with
  | nil => exact .refl _
  | cons hfirst hrest ih =>
      cases hrest with
      | nil => exact hfirst
      | cons hnext hothers => exact hfirst.append (ih.cons_text separator)

end Fragment

/-!
## Conditions
-/

inductive Node.Alike : Node → Node → Prop where
  | opening (connector : Option Connector) :
      Alike (.opening connector) (.opening connector)
  | closing : Alike .closing .closing
  | condition (connector : Option Connector) {fragment other : Fragment}
      (h : fragment.Alike other) :
      Alike (.condition connector fragment) (.condition connector other)

namespace Conditions

def Alike (conditions others : Conditions) : Prop :=
  List.Forall₂ Node.Alike conditions.nodes others.nodes

theorem alike_empty : empty.Alike empty :=
  .nil

variable {conditions others : Conditions}

theorem Alike.isEmpty_eq (h : conditions.Alike others) :
    conditions.isEmpty = others.isEmpty := by
  rcases conditions with ⟨nodes⟩
  rcases others with ⟨otherNodes⟩
  unfold Alike at h
  cases h <;> rfl

theorem Alike.depth_eq (h : conditions.Alike others) :
    conditions.depth = others.depth := by
  rw [conditions.counted, others.counted]
  refine List.rel_foldl ?_ rfl h
  rintro depth _ rfl node other hnode
  cases hnode <;> rfl

theorem Alike.endsOpening_eq (h : conditions.Alike others) :
    conditions.endsOpening = others.endsOpening := by
  have hreverse : List.Forall₂ Node.Alike conditions.nodes.reverse
      others.nodes.reverse :=
    List.rel_reverse h
  unfold endsOpening
  -- the relation is read from the front, so the lists are turned around
  rw [← List.head?_reverse, ← List.head?_reverse]
  generalize conditions.nodes.reverse = nodes at hreverse ⊢
  generalize others.nodes.reverse = otherNodes at hreverse ⊢
  cases hreverse with
  | nil => rfl
  | cons hlast _ => cases hlast <;> rfl

theorem Alike.connectorFor_eq (h : conditions.Alike others)
    (connector : Connector) :
    conditions.connectorFor connector = others.connectorFor connector := by
  unfold connectorFor
  rw [h.isEmpty_eq, h.endsOpening_eq]

theorem Alike.push {node other : Node} (h : conditions.Alike others)
    (hnode : node.Alike other) :
    (conditions.push node).Alike (others.push other) :=
  List.rel_append h (.cons hnode .nil)

theorem Alike.add {fragment other : Fragment} (h : conditions.Alike others)
    (connector : Connector) (hfragment : fragment.Alike other) :
    (conditions.add connector fragment).Alike (others.add connector other) := by
  unfold Conditions.add
  rw [h.connectorFor_eq]
  exact h.push (.condition _ hfragment)

theorem Alike.openGroup (h : conditions.Alike others) (connector : Connector) :
    (conditions.openGroup connector).Alike (others.openGroup connector) := by
  unfold Conditions.openGroup
  rw [h.connectorFor_eq]
  exact h.push (.opening _)

theorem Alike.closeGroup (h : conditions.Alike others) :
    Agree Alike conditions.closeGroup others.closeGroup := by
  unfold Conditions.closeGroup
  rw [h.depth_eq, h.endsOpening_eq]
  split
  · exact .error _
  · split
    · exact .error _
    · exact .ok (h.push .closing)

theorem alike_nodePieces {node other : Node} (h : node.Alike other) :
    Fragment.Alike (nodePieces node) (nodePieces other) := by
  cases h with
  | opening connector => exact .refl _
  | closing => exact .refl _
  | condition connector hfragment =>
      exact (Fragment.Alike.refl _).append hfragment

theorem Alike.render (h : conditions.Alike others) :
    Agree Fragment.Alike conditions.render others.render := by
  unfold Conditions.render
  rw [h.depth_eq, h.isEmpty_eq]
  split
  · exact .error _
  · split
    · exact .ok (.refl _)
    · have hnodes : Fragment.Alike (conditions.nodes.flatMap nodePieces)
          (others.nodes.flatMap nodePieces) :=
        List.rel_flatMap h fun _ _ hnode => alike_nodePieces hnode
      exact .ok (hnodes.cons_text " WHERE ")

end Conditions

/-!
## Selections
-/

namespace Selection

def Alike (selection other : Selection) : Prop :=
  ∃ conditions, selection.conditions.Alike conditions ∧
    other = { selection with conditions }

variable {selection other : Selection}

theorem Alike.source (h : selection.Alike other) :
    Agree Fragment.Alike selection.source other.source := by
  rcases h with ⟨conditions, hconditions, rfl⟩
  unfold Selection.source
  cases selection.table with
  | none => exact .error _
  | some table =>
      apply hconditions.render.map
      intro fragment fragment' hfragment
      exact ((Fragment.Alike.refl _).append hfragment).append (.refl _)

theorem Alike.rows (h : selection.Alike other) :
    Agree Fragment.Alike selection.rows other.rows := by
  have hsource := h.source
  rcases h with ⟨conditions, hconditions, rfl⟩
  apply hsource.map
  intro fragment fragment' hfragment
  exact (hfragment.cons_text _).append (.refl _)

theorem Alike.aggregated (h : selection.Alike other) (aggregate : Aggregate)
    (column : Column) :
    Agree Fragment.Alike (selection.aggregated aggregate column)
      (other.aggregated aggregate column) := by
  have hsource := h.source
  rcases h with ⟨conditions, hconditions, rfl⟩
  unfold Selection.aggregated
  split
  · exact .error _
  · apply hsource.map
    intro fragment fragment' hfragment
    exact (hfragment.cons_text _).append (.refl _)

end Selection

/-!
## Insertions, updates and deletions
-/

inductive AssignedValue.Alike : AssignedValue → AssignedValue → Prop where
  | bound (value other : Param) : Alike (.bound value) (.bound other)
  | call (text : String) : Alike (.call text) (.call text)

structure Assignment.Alike (assignment other : Assignment) : Prop where
  column : assignment.column = other.column
  value : assignment.value.Alike other.value

theorem AssignedValue.Alike.piece {value other : AssignedValue}
    (h : value.Alike other) : value.piece.Alike other.piece := by
  cases h with
  | bound value other => exact .slot value other
  | call text => exact .same _

structure Insertion.Alike (insertion other : Insertion) : Prop where
  table : insertion.table = other.table
  assignments :
    List.Forall₂ Assignment.Alike insertion.assignments other.assignments

structure Update.Alike (update other : Update) : Prop where
  table : update.table = other.table
  assignments :
    List.Forall₂ Assignment.Alike update.assignments other.assignments
  conditions : update.conditions.Alike other.conditions

structure Deletion.Alike (deletion other : Deletion) : Prop where
  table : deletion.table = other.table
  conditions : deletion.conditions.Alike other.conditions
  allRows : deletion.allRows = other.allRows

theorem Assignment.isEmpty_eq {assignments others : List Assignment}
    (h : List.Forall₂ Alike assignments others) :
    assignments.isEmpty = others.isEmpty := by
  cases h <;> rfl

theorem Insertion.Alike.fragment {insertion other : Insertion}
    (h : insertion.Alike other) :
    Agree Fragment.Alike insertion.fragment other.fragment := by
  have hcolumns :
      (insertion.assignments.map fun assignment => assignment.column.sql) =
        other.assignments.map fun assignment => assignment.column.sql := by
    rw [← List.forall₂_eq_eq_eq]
    apply List.rel_map _ h.assignments
    intro assignment assignment' halike
    exact congrArg Ident.sql halike.column
  have hvalues : List.Forall₂ Fragment.Alike
      (insertion.assignments.map fun assignment => [assignment.value.piece])
      (other.assignments.map fun assignment => [assignment.value.piece]) := by
    apply List.rel_map _ h.assignments
    intro assignment assignment' halike
    exact .cons halike.value.piece .nil
  unfold Insertion.fragment
  rw [h.table, Assignment.isEmpty_eq h.assignments, hcolumns]
  cases other.table with
  | none => exact .error _
  | some table =>
      dsimp only
      split
      · exact .error _
      · have hlist := Fragment.Alike.separated ", " hvalues
        exact .ok ((hlist.cons_text _).append (.refl _))

theorem Update.Alike.fragment {update other : Update} (h : update.Alike other) :
    Agree Fragment.Alike update.fragment other.fragment := by
  have hassigned : List.Forall₂ Fragment.Alike
      (update.assignments.map assignmentFragment)
      (other.assignments.map assignmentFragment) := by
    apply List.rel_map _ h.assignments
    intro assignment assignment' halike
    unfold assignmentFragment
    rw [halike.column]
    exact .cons (.same _) (.cons halike.value.piece .nil)
  unfold Update.fragment
  rw [h.table, Assignment.isEmpty_eq h.assignments]
  cases other.table with
  | none => exact .error _
  | some table =>
      dsimp only
      split
      · exact .error _
      · have hlist := Fragment.Alike.separated ", " hassigned
        apply h.conditions.render.map
        intro fragment fragment' hfragment
        exact (hlist.cons_text _).append hfragment

theorem Deletion.Alike.fragment {deletion other : Deletion}
    (h : deletion.Alike other) :
    Agree Fragment.Alike deletion.fragment other.fragment := by
  have hrestriction :
      Agree Fragment.Alike deletion.restriction other.restriction := by
    unfold Deletion.restriction
    rw [h.conditions.isEmpty_eq, h.allRows]
    split
    · exact .ok (.refl _)
    · exact h.conditions.render
  unfold Deletion.fragment
  rw [h.table]
  cases other.table with
  | none => exact .error _
  | some table =>
      apply hrestriction.map
      intro fragment fragment' hfragment
      exact hfragment.cons_text _

/-!
## Recordings
-/

namespace Recording

variable {σ : Type} {R : σ → σ → Prop}

def Corresponds (R : σ → σ → Prop) (edit other : Edit σ) : Prop :=
  ∀ parts others, R parts others → Agree R (edit parts) (other others)

structure Alike (R : σ → σ → Prop) (recording other : Recording σ) :
    Prop where
  parts : R recording.parts other.parts
  failure : recording.failure = other.failure

theorem Alike.attempt {recording other : Recording σ} {edit edit' : Edit σ}
    (h : Alike R recording other) (hedit : Corresponds R edit edit') :
    Alike R (recording.attempt edit) (other.attempt edit') := by
  have hboth := hedit _ _ h.parts
  unfold Recording.attempt
  generalize edit recording.parts = result at hboth ⊢
  generalize edit' other.parts = result' at hboth ⊢
  cases hboth with
  | error error => exact ⟨h.parts, congrArg (·.or (some error)) h.failure⟩
  | ok hparts => exact ⟨hparts, h.failure⟩

theorem Alike.attemptAll {recording other : Recording σ}
    {edits others : List (Edit σ)} (h : Alike R recording other)
    (hedits : List.Forall₂ (Corresponds R) edits others) :
    Alike R (recording.attemptAll edits) (other.attemptAll others) :=
  List.rel_foldl (fun _ _ hrecording _ _ hedit => hrecording.attempt hedit) h
    hedits

theorem Alike.checked {recording other : Recording σ}
    (h : Alike R recording other) :
    Agree R recording.checked other.checked := by
  unfold Recording.checked
  rw [h.failure]
  cases other.failure with
  | some error => exact .error error
  | none => exact .ok h.parts

theorem agree_checked {recording : Recording σ} {edits others : List (Edit σ)}
    (hparts : R recording.parts recording.parts)
    (hedits : List.Forall₂ (Corresponds R) edits others) :
    Agree R (recording.attemptAll edits).checked
      (recording.attemptAll others).checked := by
  have hsame : Alike R recording recording := ⟨hparts, rfl⟩
  exact (hsame.attemptAll hedits).checked

end Recording

end SqlAssembler
