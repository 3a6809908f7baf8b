import SqlAssembler.Proofs.Grammar.Names
import SqlAssembler.Proofs.Rows.Losses

/-!
# Labels that stay flat

No flat key is a label that the caller wrote, for the keys of a selection
differ. But the value under a flat key goes to its column, and a label may well
be the name of such a column. This, and nothing else, changes what stands under
the label.
-/

namespace SqlAssembler

theorem Column.resultKey_of_ownLabel {column : Column} {label : String}
    (h : column.ownLabel = some label) : column.resultKey = some label := by
  cases column with
  | wildcard table => cases h
  | plain ident own =>
      cases h
      rfl
  | json base path own =>
      cases h
      rfl
  | call text own => exact h

namespace Nesting

variable {nesting : Nesting} {row result : Row} {key : String}

theorem get?_of_apply_other
    (hflat : ∀ placement ∈ nesting.placements, placement.flat ≠ key)
    (hcolumn : ∀ placement ∈ nesting.placements, placement.column ≠ key)
    (h : nesting.apply row = some result) : result.get? key = row.get? key := by
  refine moveAll_keeps (P := fun after => after.get? key = row.get? key) ?_ h
    rfl
  intro placement hplacement before after hmove hbefore
  rw [Placement.get?_of_move_other (hflat placement hplacement)
    (hcolumn placement hplacement) hmove, hbefore]

theorem isSome_get?_of_apply_single (hnesting : nesting.WellFormed)
    {placement : Placement} (hplacement : placement ∈ nesting.placements)
    (hflat : ∀ other ∈ nesting.placements, other.flat ≠ placement.column)
    {value : Json}
    (h : nesting.apply [(placement.flat, value)] = some result) :
    (result.get? placement.column).isSome = true := by
  rcases List.append_of_mem hplacement with ⟨earlier, later, hsplit⟩
  rcases apply_split_single hnesting hsplit h with ⟨filled, hlater⟩
  refine moveAll_keeps
    (P := fun row => (row.get? placement.column).isSome = true) ?_ hlater
    (by simp [Members.get?])
  intro other hother row moved hmove hrow
  refine isSome_get?_of_move (hflat other ?_) hmove hrow
  rw [hsplit]
  exact List.mem_append_right _ (List.mem_cons_of_mem placement hother)

/-- What stands under a key that is not flat is kept in every row, if and only
if no value is moved to it. -/
theorem get?_apply_iff (hnesting : nesting.WellFormed)
    (hbounded : nesting.Bounded)
    (hflat : ∀ placement ∈ nesting.placements, placement.flat ≠ key) :
    (∀ row : Row, row.keys.Nodup → ∃ result,
        nesting.apply row = some result ∧ result.get? key = row.get? key) ↔
      ∀ placement ∈ nesting.placements, placement.column ≠ key := by
  constructor
  · rintro hkept placement hplacement rfl
    rcases hkept [(placement.flat, .null)] (by simp [Members.keys]) with
      ⟨result, hresult, hsame⟩
    have hsome :=
      isSome_get?_of_apply_single hnesting hplacement hflat hresult
    have hnone : Members.get? [(placement.flat, Json.null)] placement.column =
        none := by
      simp [Members.get?, hflat placement hplacement]
    rw [hsame, hnone] at hsome
    cases hsome
  · intro hcolumn row _
    rcases exists_apply hbounded row with ⟨result, hresult⟩
    exact ⟨result, hresult, get?_of_apply_other hflat hcolumn hresult⟩

end Nesting

namespace SelectBuilder

theorem flat_ne_ownLabel {settings : Settings} {table label : String}
    {calls : List SelectCall} {column : Column}
    (hcolumn : column ∈
      ((start settings table).recordAll calls).selection.columns)
    (hlabel : column.ownLabel = some label) :
    ∀ placement ∈ ((start settings table).recordAll calls).nesting.placements,
      placement.flat ≠ label := by
  rintro placement hplacement rfl
  have hparts : Selection.WellFormed settings.functions (fun _ => True)
      ((start settings table).recordAll calls).selection :=
    parts_wellFormed fun _ _ => trivial
  rcases List.mem_filterMap.mp hplacement with ⟨other, hother, hplaced⟩
  rcases Nesting.placement?_eq_some hplaced with ⟨base, rfl, _, _, hkey⟩
  have hsame := Column.eq_of_resultKey hparts.keys hcolumn hother
    (Column.resultKey_of_ownLabel hlabel) hkey
  rw [← hsame] at hlabel
  cases hlabel

/-- In the results of a selection, what stands under a label of the caller is
kept in every row, if and only if the label is not the column of an extraction
that is nested. No row is refused, as long as no index is too large. -/
theorem ownLabel_kept_iff (settings : Settings) (table : String)
    (calls : List SelectCall) (column : Column) (label : String)
    (hbounded : ((start settings table).recordAll calls).nesting.Bounded)
    (hcolumn : column ∈
      ((start settings table).recordAll calls).selection.columns)
    (hlabel : column.ownLabel = some label) :
    (∀ row : Row, row.keys.Nodup → ∃ result,
        ((start settings table).recordAll calls).nesting.apply row =
          some result ∧
        result.get? label = row.get? label) ↔
      ∀ placement ∈
          ((start settings table).recordAll calls).nesting.placements,
        placement.column ≠ label :=
  Nesting.get?_apply_iff (wellFormed_nesting settings table calls) hbounded
    (flat_ne_ownLabel hcolumn hlabel)

/-- A label that is no column of an extraction. -/
theorem ownLabel_kept_of_other_column :
    ((start .standard "t").recordAll
        [.select ["a->b", "c AS d"]]).recording.failure = none ∧
    ((start .standard "t").recordAll
      [.select ["a->b", "c AS d"]]).nesting.Bounded ∧
    ∀ row : Row, row.keys.Nodup → ∃ result,
      ((start .standard "t").recordAll
        [.select ["a->b", "c AS d"]]).nesting.apply row = some result ∧
      result.get? "d" = row.get? "d" := by
  have hd : Column.parseProjection .standard (some ⟨[⟨"t", false⟩]⟩) "c AS d" =
      .ok (.plain ⟨[⟨"t", false⟩, ⟨"c", false⟩]⟩ (some "d")) := by cbv
  have hrecorded := recordAll_of_two parseProjection_b hd rfl rfl (by decide)
  have hplacements : ((start .standard "t").recordAll
      [.select ["a->b", "c AS d"]]).nesting.placements =
        [⟨"a_b", "a", ["b"]⟩] := by
    rw [hrecorded]
    cbv
  have hbounded : ((start .standard "t").recordAll
      [.select ["a->b", "c AS d"]]).nesting.Bounded := by
    rw [Nesting.Bounded, hplacements]
    decide
  refine ⟨by rw [hrecorded]; rfl, hbounded, ?_⟩
  refine (ownLabel_kept_iff .standard "t" _
    (.plain ⟨[⟨"t", false⟩, ⟨"c", false⟩]⟩ (some "d")) "d" hbounded ?_ rfl).mpr
      ?_
  · rw [hrecorded]
    exact List.mem_cons_of_mem _ List.mem_cons_self
  · rw [hplacements]
    decide

/-- The label is the column of the extraction next to it, whose value is put
under the label, although a label should stay as it is. -/
theorem ownLabel_overwritten_by_column :
    ((start .standard "t").recordAll
        [.select ["a->b", "c AS a"]]).recording.failure = none ∧
    .plain ⟨[⟨"t", false⟩, ⟨"c", false⟩]⟩ (some "a") ∈
      ((start .standard "t").recordAll
        [.select ["a->b", "c AS a"]]).selection.columns ∧
    Members.get? [("a_b", .int 1), ("a", .null)] "a" = some .null ∧
    ((start .standard "t").recordAll
      [.select ["a->b", "c AS a"]]).nesting.apply
        [("a_b", .int 1), ("a", .null)] =
          some [("a", .object [("b", .int 1)])] := by
  have ha : Column.parseProjection .standard (some ⟨[⟨"t", false⟩]⟩) "c AS a" =
      .ok (.plain ⟨[⟨"t", false⟩, ⟨"c", false⟩]⟩ (some "a")) := by cbv
  have hrecorded := recordAll_of_two parseProjection_b ha rfl rfl (by decide)
  rw [hrecorded]
  refine ⟨rfl, List.mem_cons_of_mem _ List.mem_cons_self, rfl, ?_⟩
  cbv

end SelectBuilder
end SqlAssembler
