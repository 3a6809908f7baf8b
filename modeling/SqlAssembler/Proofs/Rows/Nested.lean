import SqlAssembler.Proofs.Rows.Documents
import SqlAssembler.Proofs.Rows.Moving
import SqlAssembler.Proofs.Rows.Placements

/-!
# Rows that are nested as a whole

If the paths of all placements part from each other, and the row has none of
their columns, every value is moved: each column is built from nothing and holds
the values that belong to it. The rest of the row stays as it is.
-/

namespace SqlAssembler
namespace Nesting

open Json (Stored Builds Accounted)

structure Separate (placements : List Placement) : Prop where
  distinct : (placements.map Placement.flat).Nodup
  flat : ∀ placement ∈ placements, ∀ other ∈ placements,
    placement.flat ≠ other.column
  /-- The paths into one column part, and no place that they share is an array
  for the one and an object for the other. -/
  apart : placements.Pairwise fun placement other =>
    placement.column = other.column → Json.Apart placement.path other.path
  bounded : ∀ placement ∈ placements, ∀ key ∈ placement.path, Json.Bounded key

def stored? (row : Row) (column : String) (placement : Placement) :
    Option Stored :=
  if placement.column = column then
    (row.get? placement.flat).map fun value => ⟨placement.path, value⟩
  else none

def storedIn (placements : List Placement) (row : Row) (column : String) :
    List Stored :=
  placements.filterMap (stored? row column)

structure Moved (placements : List Placement) (row result : Row) : Prop where
  nodup : result.keys.Nodup
  gone : ∀ placement ∈ placements, result.get? placement.flat = none
  kept : ∀ key, (∀ placement ∈ placements, placement.flat ≠ key) →
    storedIn placements row key = [] → result.get? key = row.get? key
  built : ∀ column, row.get? column = none →
    storedIn placements row column ≠ [] →
      ∃ document, result.get? column = some document ∧
        Builds (storedIn placements row column) document

variable {placements : List Placement} {placement : Placement}
  {row result : Row} {column : String}

/-!
## What is stored in a column
-/

theorem mem_storedIn {entry : Stored} :
    entry ∈ storedIn placements row column ↔ ∃ placement ∈ placements,
      placement.column = column ∧ placement.path = entry.path ∧
        row.get? placement.flat = some entry.value := by
  rw [storedIn, List.mem_filterMap]
  constructor
  · rintro ⟨placement, hmem, hentry⟩
    rcases Option.ite_none_right_eq_some.mp hentry with ⟨hcolumn, hvalue⟩
    rcases Option.map_eq_some_iff.mp hvalue with ⟨value, hflat, rfl⟩
    exact ⟨placement, hmem, hcolumn, rfl, hflat⟩
  · rintro ⟨placement, hmem, hcolumn, hpath, hflat⟩
    refine ⟨placement, hmem, ?_⟩
    rw [stored?, if_pos hcolumn, hflat, Option.map_some, hpath]

theorem storedIn_eq_nil (h : ∀ placement ∈ placements,
    placement.column = column → row.get? placement.flat = none) :
    storedIn placements row column = [] := by
  apply List.eq_nil_iff_forall_not_mem.mpr
  intro entry hentry
  rcases mem_storedIn.mp hentry with ⟨placement, hmem, hcolumn, _, hflat⟩
  rw [h placement hmem hcolumn] at hflat
  cases hflat

theorem storedIn_concat :
    storedIn (placements ++ [placement]) row column =
      storedIn placements row column ++
        (stored? row column placement).toList := by
  rw [storedIn, List.filterMap_append]
  cases h : stored? row column placement <;> simp [storedIn, h]

/-!
## One more placement
-/

theorem Separate.init (h : Separate (placements ++ [placement])) :
    Separate placements := by
  have hsublist := List.sublist_append_left placements [placement]
  refine ⟨h.distinct.sublist (hsublist.map _), ?_, h.apart.sublist hsublist, ?_⟩
  · intro other hother third hthird
    exact h.flat other (hsublist.subset hother) third (hsublist.subset hthird)
  · intro other hother
    exact h.bounded other (hsublist.subset hother)

theorem Separate.apart_last (h : Separate (placements ++ [placement]))
    {entry : Stored}
    (hentry : entry ∈ storedIn placements row placement.column) :
    Json.Apart entry.path placement.path := by
  rcases mem_storedIn.mp hentry with ⟨other, hother, hcolumn, hpath, _⟩
  rw [← hpath]
  exact (List.pairwise_append.mp h.apart).2.2 other hother placement
    List.mem_cons_self hcolumn

theorem Separate.flat_ne_last (h : Separate (placements ++ [placement])) :
    ∀ other ∈ placements, other.flat ≠ placement.flat := by
  have hnodup := h.distinct
  rw [List.map_append, List.nodup_append] at hnodup
  intro other hother
  exact hnodup.2.2 _ (List.mem_map_of_mem hother) _ (by simp)

theorem Moved.nothing (hrow : row.keys.Nodup) : Moved [] row row :=
  ⟨hrow, by simp, fun _ _ _ => rfl, fun _ _ hsome => absurd rfl hsome⟩

theorem Moved.get?_flat (h : Moved placements row result)
    (hdistinct : ∀ other ∈ placements, other.flat ≠ placement.flat)
    (hcolumn : ∀ other ∈ placements, placement.flat ≠ other.column) :
    result.get? placement.flat = row.get? placement.flat := by
  refine h.kept _ hdistinct (storedIn_eq_nil ?_)
  intro other hother hsame
  exact absurd hsame.symm (hcolumn other hother)

theorem Moved.slot (h : Moved placements row result)
    (hfresh : row.get? placement.column = none)
    (hflat : ∀ other ∈ placements, other.flat ≠ placement.column) :
    Builds (storedIn placements row placement.column)
      (placement.slot result) := by
  rw [Placement.slot]
  by_cases hstored : storedIn placements row placement.column = []
  · rw [h.kept _ hflat hstored, hfresh, hstored]
    exact .nothing
  · rcases h.built _ hfresh hstored with ⟨document, hget, hbuilds⟩
    rw [hget]
    exact hbuilds

theorem Moved.concat_absent (h : Moved placements row result)
    (hrow : row.get? placement.flat = none)
    (hresult : result.get? placement.flat = none) :
    Moved (placements ++ [placement]) row result := by
  have hstored : ∀ column, storedIn (placements ++ [placement]) row column =
      storedIn placements row column := by
    intro column
    rw [storedIn_concat, stored?, hrow, Option.map_none, ite_self,
      Option.toList_none, List.append_nil]
  refine ⟨h.nodup, ?_, ?_, ?_⟩
  · intro other hother
    rcases List.mem_append.mp hother with hold | hnew
    · exact h.gone other hold
    · rw [List.mem_singleton.mp hnew]
      exact hresult
  · intro key hkey
    rw [hstored]
    exact h.kept key fun other hother =>
      hkey other (List.mem_append_left _ hother)
  · intro column
    rw [hstored]
    exact h.built column

theorem Moved.concat_value {after : Row} {value : Json}
    (h : Moved placements row result)
    (hseparate : Separate (placements ++ [placement]))
    (hfresh : row.get? placement.column = none)
    (hrow : row.get? placement.flat = some value)
    (hresult : result.get? placement.flat = some value)
    (hmove : placement.move result = some after) :
    Moved (placements ++ [placement]) row after := by
  have hlast : placement ∈ placements ++ [placement] := by simp
  have hbefore : ∀ other ∈ placements, other ∈ placements ++ [placement] :=
    fun other hother => List.mem_append_left _ hother
  have hslot := h.slot hfresh fun other hother =>
    hseparate.flat other (hbefore other hother) placement hlast
  rcases (Placement.move_eq_some_iff hresult).mp hmove with
    ⟨filled, stored, hstore, hafter⟩
  rcases hslot.store (fun entry => hseparate.apart_last) hstore with
    ⟨rfl, hbuilds⟩
  rw [if_pos rfl] at hafter
  have hnodup := Members.nodup_keys_set h.nodup placement.column filled
  refine ⟨?_, ?_, ?_, ?_⟩
  · rw [hafter]
    exact Members.nodup_keys_erase hnodup _
  · intro other hother
    rcases List.mem_append.mp hother with hold | hnew
    · rw [Placement.get?_of_move_other (hseparate.flat_ne_last other hold).symm
        (hseparate.flat other hother placement hlast).symm hmove]
      exact h.gone other hold
    · rw [List.mem_singleton.mp hnew, hafter]
      exact Members.get?_erase_self hnodup _
  · intro key hkey hnone
    rw [storedIn_concat, List.append_eq_nil_iff] at hnone
    have hcolumn : placement.column ≠ key := by
      rintro rfl
      rw [stored?, if_pos rfl, hrow] at hnone
      cases hnone.2
    rw [Placement.get?_of_move_other (hkey placement hlast) hcolumn hmove]
    exact h.kept key (fun other hother => hkey other (hbefore other hother))
      hnone.1
  · intro column hcolumn hsome
    by_cases hsame : placement.column = column
    · subst hsame
      refine ⟨filled, ?_, ?_⟩
      · rw [hafter, Members.get?_erase_of_ne _
          (hseparate.flat placement hlast placement hlast), Members.get?_set,
          if_pos rfl]
      · rw [storedIn_concat, stored?, if_pos rfl, hrow]
        exact hbuilds
    · rw [storedIn_concat, stored?, if_neg hsame, Option.toList_none,
        List.append_nil] at hsome ⊢
      rcases List.exists_mem_of_ne_nil _ hsome with ⟨entry, hentry⟩
      rcases mem_storedIn.mp hentry with ⟨other, hother, hin, _⟩
      have haway : placement.flat ≠ column := by
        rw [← hin]
        exact hseparate.flat placement hlast other (hbefore other hother)
      rw [Placement.get?_of_move_other haway hsame hmove]
      exact h.built column hcolumn hsome

theorem Moved.concat {after : Row} (h : Moved placements row result)
    (hseparate : Separate (placements ++ [placement]))
    (hfresh : row.get? placement.column = none)
    (hmove : placement.move result = some after) :
    Moved (placements ++ [placement]) row after := by
  have hresult : result.get? placement.flat = row.get? placement.flat :=
    h.get?_flat hseparate.flat_ne_last fun other hother =>
      hseparate.flat placement (by simp) other (List.mem_append_left _ hother)
  cases hrow : row.get? placement.flat with
  | none =>
      rw [Placement.move_of_absent (hresult.trans hrow)] at hmove
      cases hmove
      exact h.concat_absent hrow (hresult.trans hrow)
  | some value =>
      exact h.concat_value hseparate hfresh hrow (hresult.trans hrow) hmove

/-!
## All placements
-/

theorem moved_of_moveAll (hrow : row.keys.Nodup)
    (hseparate : Separate placements)
    (hfresh : ∀ placement ∈ placements, row.get? placement.column = none)
    (hall : moveAll placements row = some result) :
    Moved placements row result := by
  -- the row in front is that of the placements moved so far, so the last one is
  -- taken off the list
  induction placements using List.reverseRecOn generalizing result with
  | nil =>
      cases hall
      exact .nothing hrow
  | append_singleton earlier placement ih =>
      rcases moveAll_split hall with ⟨before, after, hbefore, hafter, hlast⟩
      cases hlast
      have hmoved := ih hseparate.init (fun other hother =>
        hfresh other (List.mem_append_left _ hother)) hbefore
      exact hmoved.concat hseparate (hfresh placement (by simp)) hafter

/-- A row that has none of the columns, and whose placements are separate, is
nested exactly. Every flat key is gone, and its value is found where its path
leads to. The columns that were created hold no leaf besides the parts of these
values, but nulls that come before an item. All other keys are as before. -/
theorem apply_builds_documents (columns : List Column) (row : Row)
    (hrow : row.keys.Nodup)
    (hseparate : Separate (ofColumns columns).placements)
    (hfresh : ∀ placement ∈ (ofColumns columns).placements,
      row.get? placement.column = none) :
    ∃ result, (ofColumns columns).apply row = some result ∧
    (∀ placement ∈ (ofColumns columns).placements,
      result.get? placement.flat = none ∧
      ∀ value, row.get? placement.flat = some value → ∃ document,
        result.get? placement.column = some document ∧
        document.nested? placement.path = some value) ∧
    (∀ placement ∈ (ofColumns columns).placements, ∀ document address leaf,
      result.get? placement.column = some document →
      document.read address = some leaf → leaf.IsLeaf →
        Accounted (storedIn (ofColumns columns).placements row placement.column)
          address leaf) ∧
    ∀ key, (∀ placement ∈ (ofColumns columns).placements,
        placement.flat ≠ key ∧
          (placement.column = key → row.get? placement.flat = none)) →
      result.get? key = row.get? key := by
  rcases exists_apply hseparate.bounded row with ⟨result, hresult⟩
  have hmoved : Moved (ofColumns columns).placements row result :=
    moved_of_moveAll hrow hseparate hfresh hresult
  refine ⟨result, hresult, ?_, ?_, ?_⟩
  · intro placement hmem
    refine ⟨hmoved.gone placement hmem, ?_⟩
    intro value hvalue
    have hentry : ⟨placement.path, value⟩ ∈
        storedIn (ofColumns columns).placements row placement.column :=
      mem_storedIn.mpr ⟨placement, hmem, rfl, rfl, hvalue⟩
    rcases hmoved.built _ (hfresh placement hmem) (List.ne_nil_of_mem hentry)
      with ⟨document, hdocument, hbuilds⟩
    exact ⟨document, hdocument,
      hbuilds.nested? hentry (hseparate.bounded placement hmem)⟩
  · intro placement hmem document address leaf hdocument hread hleaf
    by_cases hstored :
        storedIn (ofColumns columns).placements row placement.column = []
    · -- without values there is no document
      have hnone := hmoved.kept placement.column
        (fun other hother => hseparate.flat other hother placement hmem) hstored
      rw [hdocument, hfresh placement hmem] at hnone
      cases hnone
    · rcases hmoved.built _ (hfresh placement hmem) hstored with
        ⟨created, hcreated, hbuilds⟩
      cases hcreated.symm.trans hdocument
      exact hbuilds.accounted hstored hread hleaf
  · intro key hkey
    exact hmoved.kept key (fun placement hmem => (hkey placement hmem).1)
      (storedIn_eq_nil fun placement hmem => (hkey placement hmem).2)

def itemColumns : List Column :=
  [.json ⟨[⟨"t", false⟩, ⟨"items", false⟩]⟩ ["1", "sku"] none,
    .json ⟨[⟨"t", false⟩, ⟨"items", false⟩]⟩ ["1", "price"] none]

def itemPlacements : List Placement :=
  [⟨"items_1_sku", "items", ["1", "sku"]⟩,
    ⟨"items_1_price", "items", ["1", "price"]⟩]

def itemRow : Row :=
  [("id", .int 3), ("items_1_sku", .string "A"), ("items_1_price", .int 7)]

theorem placements_itemColumns :
    (ofColumns itemColumns).placements = itemPlacements := by
  cbv

theorem apply_builds_items :
    Separate (ofColumns itemColumns).placements ∧
    (∀ placement ∈ (ofColumns itemColumns).placements,
      itemRow.get? placement.column = none) ∧
    ∃ result, (ofColumns itemColumns).apply itemRow = some result ∧
      result.get? "items_1_price" = none ∧
      (∃ document, result.get? "items" = some document ∧
        document.nested? ["1", "price"] = some (.int 7)) ∧
      result.get? "id" = some (.int 3) := by
  have hseparate : Separate (ofColumns itemColumns).placements := by
    rw [placements_itemColumns]
    exact ⟨by decide, by decide, by decide, by decide⟩
  have hfresh : ∀ placement ∈ (ofColumns itemColumns).placements,
      itemRow.get? placement.column = none := by
    rw [placements_itemColumns, itemPlacements]
    simp only [List.forall_mem_cons, List.not_mem_nil, false_implies,
      implies_true, and_true]
    exact ⟨by cbv, by cbv⟩
  rcases apply_builds_documents itemColumns itemRow (by decide) hseparate hfresh
    with ⟨result, hresult, hmoved, _, hkept⟩
  have hprice : (⟨"items_1_price", "items", ["1", "price"]⟩ : Placement) ∈
      (ofColumns itemColumns).placements := by
    rw [placements_itemColumns]
    decide
  refine ⟨hseparate, hfresh, result, hresult, (hmoved _ hprice).1,
    (hmoved _ hprice).2 _ ?_, ?_⟩
  · cbv
  · rw [hkept "id" ?_]
    · cbv
    · rw [placements_itemColumns]
      decide

end Nesting
end SqlAssembler
