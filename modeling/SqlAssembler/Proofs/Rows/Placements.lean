import SqlAssembler.Execution.Running
import SqlAssembler.Proofs.Scripts.Recorded

/-!
# Recorded placements

The placements of a selection come from its projections, so their flat keys
differ, each flat key is longer than the column that its value belongs to, and
no path is empty. How values get in each other's way rests on these three facts.
-/

namespace SqlAssembler

theorem Column.resultKey_ne_of_nodup {before after : List Column}
    {column : Column} {key : String} (hkey : column.resultKey = some key)
    (h : ((before ++ column :: after).filterMap resultKey).Nodup) :
    ∀ other ∈ before ++ after, other.resultKey ≠ some key := by
  intro other hother hsame
  rw [List.filterMap_append, List.filterMap_cons_some hkey,
    List.perm_middle.nodup_iff, ← List.filterMap_append] at h
  exact (List.nodup_cons.mp h).1 (List.mem_filterMap.mpr ⟨other, hother, hsame⟩)

theorem Column.eq_of_resultKey {columns : List Column} {column other : Column}
    {key : String} (h : (columns.filterMap resultKey).Nodup)
    (hcolumn : column ∈ columns) (hother : other ∈ columns)
    (hkey : column.resultKey = some key) (hsame : other.resultKey = some key) :
    other = column := by
  rcases List.append_of_mem hcolumn with ⟨before, after, hsplit⟩
  rw [hsplit] at h hother
  rcases List.mem_append.mp hother with hbefore | hafter
  · exact absurd hsame
      (resultKey_ne_of_nodup hkey h other (List.mem_append_left _ hbefore))
  · rcases List.mem_cons.mp hafter with heq | hlater
    · exact heq
    · exact absurd hsame
        (resultKey_ne_of_nodup hkey h other (List.mem_append_right _ hlater))

structure Nesting.WellFormed (nesting : Nesting) : Prop where
  distinct : (nesting.placements.map Placement.flat).Nodup
  longer : ∀ placement ∈ nesting.placements,
    placement.column.length < placement.flat.length
  leads : ∀ placement ∈ nesting.placements, placement.path ≠ []

namespace Nesting

theorem placement?_eq_some {column : Column} {placement : Placement}
    (h : placement? column = some placement) :
    ∃ base, column = .json base placement.path none ∧
      placement.column = base.name ∧
      placement.flat =
        base.name ++ "_" ++ "_".intercalate placement.path ∧
      column.resultKey = some placement.flat := by
  cases column with
  | json base path label =>
      cases label with
      | some label => cases h
      | none =>
          cases h
          exact ⟨base, rfl, rfl, rfl, rfl⟩
  | _ => cases h

theorem length_column_lt {column : Column} {placement : Placement}
    (h : placement? column = some placement) :
    placement.column.length < placement.flat.length := by
  rcases placement?_eq_some h with ⟨base, _, hcolumn, hflat, _⟩
  have hunderscore : "_".length = 1 := rfl
  rw [hcolumn, hflat, String.length_append, String.length_append]
  omega

theorem flats_sublist (columns : List Column) :
    ((ofColumns columns).placements.map Placement.flat).Sublist
      (columns.filterMap Column.resultKey) := by
  induction columns with
  | nil => exact List.Sublist.slnil
  | cons column rest ih =>
      rw [ofColumns] at ih ⊢
      cases hplacement : placement? column with
      | none =>
          rw [List.filterMap_cons_none hplacement]
          refine ih.trans ?_
          cases hkey : column.resultKey with
          | none => simp [List.filterMap_cons_none hkey]
          | some key =>
              rw [List.filterMap_cons_some hkey]
              exact List.sublist_cons_self key _
      | some placement =>
          rcases placement?_eq_some hplacement with ⟨_, _, _, _, hkey⟩
          rw [List.filterMap_cons_some hplacement,
            List.filterMap_cons_some hkey]
          exact ih.cons_cons placement.flat

theorem wellFormed_ofColumns {columns : List Column} {calls : String → Prop}
    (hcolumns : ∀ column ∈ columns, column.WellFormed calls)
    (hkeys : (columns.filterMap Column.resultKey).Nodup) :
    (ofColumns columns).WellFormed := by
  refine ⟨hkeys.sublist (flats_sublist columns), ?_, ?_⟩
  · intro placement hmem
    rcases List.mem_filterMap.mp hmem with ⟨column, _, hplacement⟩
    exact length_column_lt hplacement
  · intro placement hmem
    rcases List.mem_filterMap.mp hmem with ⟨column, hmemColumn, hplacement⟩
    rcases placement?_eq_some hplacement with ⟨base, rfl, _⟩
    exact (hcolumns _ hmemColumn).2.1

theorem WellFormed.flat_ne {nesting : Nesting} (h : nesting.WellFormed)
    {earlier later : List Placement} {placement : Placement}
    (hsplit : nesting.placements = earlier ++ placement :: later) :
    ∀ other ∈ earlier ++ later, other.flat ≠ placement.flat := by
  have hdistinct := h.distinct
  rw [hsplit, List.map_append, List.map_cons] at hdistinct
  rcases List.nodup_append.mp hdistinct with ⟨_, hrest, hapart⟩
  intro other hother hsame
  rcases List.mem_append.mp hother with hbefore | hafter
  · exact hapart _ (List.mem_map_of_mem hbefore) _ List.mem_cons_self hsame
  · have hfresh := (List.nodup_cons.mp hrest).1
    rw [← hsame] at hfresh
    exact hfresh (List.mem_map_of_mem hafter)

end Nesting

theorem SelectBuilder.wellFormed_nesting (settings : Settings) (table : String)
    (calls : List SelectCall) :
    ((start settings table).recordAll calls).nesting.WellFormed := by
  have hparts : Selection.WellFormed settings.functions (fun _ => True)
      ((start settings table).recordAll calls).recording.parts :=
    parts_wellFormed fun _ _ => trivial
  exact Nesting.wellFormed_ofColumns hparts.columns hparts.keys

end SqlAssembler
