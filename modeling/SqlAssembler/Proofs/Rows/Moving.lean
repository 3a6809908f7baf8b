import SqlAssembler.Proofs.Rows.Paths

/-!
# Values that are kept

A value of a row is moved once, when the turn of its placement comes. Before
that it can be changed only by a placement whose column is its flat key, and
afterwards only by one that stores into the same column, or moves that column
away. If none of the placements does so, the value is found in the end.
-/

namespace SqlAssembler
namespace Placement

def Holds (placement : Placement) (row : Row) (value : Json) : Prop :=
  row.get? placement.flat = some value ∨
    ∃ slot, row.get? placement.column = some slot ∧
      slot.read placement.path = some value

/-- No other placement gets in the way, given those before and after it. -/
structure Safe (placement : Placement) (earlier later : List Placement) :
    Prop where
  column : ∀ other ∈ earlier ++ later, other.column ≠ placement.flat
  flat : ∀ other ∈ later, other.flat ≠ placement.column
  path : ∀ other ∈ later, other.column = placement.column →
    Json.overlaps placement.path other.path = false

/-!
## One move
-/

variable {placement other : Placement} {row result : Row} {value : Json}
  {key : String}

def slot (placement : Placement) (row : Row) : Json :=
  (row.get? placement.column).getD .null

theorem move_of_absent (h : row.get? placement.flat = none) :
    placement.move row = some row := by
  rw [move, h]

theorem move_eq_some_iff (h : row.get? placement.flat = some value) :
    placement.move row = some result ↔ ∃ filled stored,
      (placement.slot row).store placement.path value = some (filled, stored) ∧
        result = if stored then
          (row.set placement.column filled).erase placement.flat
        else row.set placement.column filled := by
  simp only [move, h, slot, Option.bind_eq_bind, Option.pure_def,
    Option.bind_eq_some_iff, Option.some.injEq, Prod.exists]
  constructor
  · intro hmove
    rcases hmove with ⟨filled, stored, hstore, rfl⟩
    exact ⟨filled, stored, hstore, rfl⟩
  · intro hmove
    rcases hmove with ⟨filled, stored, hstore, rfl⟩
    exact ⟨filled, stored, hstore, rfl⟩

theorem exists_move (hpath : ∀ key ∈ placement.path, Json.Bounded key)
    (row : Row) : ∃ result, placement.move row = some result := by
  cases h : row.get? placement.flat with
  | none => exact ⟨row, move_of_absent h⟩
  | some value =>
      rcases Json.exists_store hpath (placement.slot row) value with
        ⟨filled, stored, hstore⟩
      exact ⟨_, (move_eq_some_iff h).mpr ⟨filled, stored, hstore, rfl⟩⟩

theorem move_eq_none_iff (h : row.get? placement.flat = some value) :
    placement.move row = none ↔
      (placement.slot row).store placement.path value = none := by
  simp only [move, h, slot]
  cases Json.store _ placement.path value <;> simp

theorem slot_single (hlonger : placement.column ≠ placement.flat)
    (value : Json) : placement.slot [(placement.flat, value)] = .null := by
  simp [slot, Members.get?, hlonger.symm]

/-- In a row that has only the flat key, a move ends the run if a key of the
path is the largest word, and only then. -/
theorem move_single_eq_none_iff (hlonger : placement.column ≠ placement.flat) :
    placement.move [(placement.flat, value)] = none ↔
      ∃ key ∈ placement.path, indexOfKey? key = some greatestIndex := by
  have hpresent : Members.get? [(placement.flat, value)] placement.flat =
      some value := by
    simp [Members.get?]
  rw [move_eq_none_iff hpresent, slot_single hlonger,
    Json.store_null_eq_none_iff]

example : move ⟨"a_18446744073709551615", "a", ["18446744073709551615"]⟩
    [("a_18446744073709551615", .null)] = none := by
  decide +kernel

theorem get?_of_move (h : row.get? placement.flat = some value)
    (hmove : placement.move row = some result) :
    ∃ filled stored,
      (placement.slot row).store placement.path value =
        some (filled, stored) ∧
      ∀ key, placement.flat ≠ key →
        result.get? key =
          if placement.column = key then some filled else row.get? key := by
  rcases (move_eq_some_iff h).mp hmove with ⟨filled, stored, hstore, rfl⟩
  refine ⟨filled, stored, hstore, ?_⟩
  intro key hkey
  cases stored with
  | true => rw [if_pos rfl, Members.get?_erase_of_ne _ hkey, Members.get?_set]
  | false => rw [if_neg Bool.false_ne_true, Members.get?_set]

theorem get?_of_move_other (hflat : placement.flat ≠ key)
    (hcolumn : placement.column ≠ key)
    (hmove : placement.move row = some result) :
    result.get? key = row.get? key := by
  cases h : row.get? placement.flat with
  | none =>
      rw [move_of_absent h] at hmove
      cases hmove
      rfl
  | some value =>
      rcases get?_of_move h hmove with ⟨filled, _, _, hget⟩
      rw [hget key hflat, if_neg hcolumn]

theorem holds_of_move (hlonger : placement.column ≠ placement.flat)
    (h : row.get? placement.flat = some value)
    (hmove : placement.move row = some result) :
    placement.Holds result value := by
  rcases (move_eq_some_iff h).mp hmove with ⟨filled, stored, hstore, rfl⟩
  cases stored with
  | true =>
      right
      refine ⟨filled, ?_, Json.read_store hstore⟩
      rw [if_pos rfl, Members.get?_erase_of_ne _ hlonger.symm,
        Members.get?_set, if_pos rfl]
  | false =>
      left
      rw [if_neg Bool.false_ne_true, Members.get?_set, if_neg hlonger]
      exact h

theorem Holds.of_move (h : placement.Holds row value)
    (hflat : other.flat ≠ placement.flat)
    (hcolumn : other.column ≠ placement.flat)
    (haway : other.flat ≠ placement.column)
    (hapart : other.column = placement.column →
      Json.overlaps placement.path other.path = false)
    (hmove : other.move row = some result) :
    placement.Holds result value := by
  rcases h with h | ⟨slot, hslot, hread⟩
  · left
    rw [get?_of_move_other hflat hcolumn hmove]
    exact h
  · right
    by_cases hsame : other.column = placement.column
    · cases hmoved : row.get? other.flat with
      | none =>
          rw [move_of_absent hmoved] at hmove
          cases hmove
          exact ⟨slot, hslot, hread⟩
      | some moved =>
          have hother : other.slot row = slot := by
            rw [Placement.slot, hsame, hslot]
            rfl
          rcases get?_of_move hmoved hmove with ⟨filled, _, hstore, hget⟩
          rw [hother] at hstore
          refine ⟨filled, ?_,
            Json.read_store_of_apart (hapart hsame) hread hstore⟩
          rw [hget _ haway, if_pos hsame]
    · refine ⟨slot, ?_, hread⟩
      rw [get?_of_move_other haway hsame hmove]
      exact hslot

end Placement

/-!
## All moves
-/

namespace Nesting

variable {nesting : Nesting} {placement : Placement} {row result : Row}
  {value : Json}

def moveAll (placements : List Placement) (row : Row) : Option Row :=
  placements.foldlM (fun row placement => placement.move row) row

theorem moveAll_append (earlier later : List Placement) (row : Row) :
    moveAll (earlier ++ later) row =
      (moveAll earlier row).bind (moveAll later) :=
  List.foldlM_append

theorem moveAll_cons (placement : Placement) (rest : List Placement)
    (row : Row) :
    moveAll (placement :: rest) row =
      (placement.move row).bind (moveAll rest) :=
  List.foldlM_cons

def Bounded (nesting : Nesting) : Prop :=
  ∀ placement ∈ nesting.placements, ∀ key ∈ placement.path, Json.Bounded key

theorem exists_moveAll {placements : List Placement}
    (h : ∀ placement ∈ placements, ∀ key ∈ placement.path, Json.Bounded key)
    (row : Row) : ∃ result, moveAll placements row = some result := by
  induction placements generalizing row with
  | nil => exact ⟨row, rfl⟩
  | cons placement rest ih =>
      rcases placement.exists_move (h placement List.mem_cons_self) row with
        ⟨moved, hmoved⟩
      rw [moveAll_cons, hmoved]
      exact ih (fun other hother =>
        h other (List.mem_cons_of_mem placement hother)) moved

theorem exists_apply (h : nesting.Bounded) (row : Row) :
    ∃ result, nesting.apply row = some result :=
  exists_moveAll h row

theorem applyAll_eq_some_iff {rows results : List Row} :
    nesting.applyAll rows = some results ↔
      rows.map nesting.apply = results.map some := by
  rw [applyAll]
  induction rows generalizing results with
  | nil => cases results <;> simp
  | cons row rest ih =>
      simp only [List.mapM_cons, Option.bind_eq_bind, Option.pure_def,
        Option.bind_eq_some_iff, Option.some.injEq, ih]
      cases results <;> simp

theorem exists_applyAll (h : nesting.Bounded) (rows : List Row) :
    ∃ results, nesting.applyAll rows = some results := by
  refine ⟨rows.map fun row => (nesting.apply row).getD row,
    applyAll_eq_some_iff.mpr ?_⟩
  rw [List.map_map]
  apply List.map_congr_left
  intro row _
  rcases exists_apply h row with ⟨result, hresult⟩
  simp [hresult]

theorem moveAll_split {earlier later : List Placement}
    (h : moveAll (earlier ++ placement :: later) row = some result) :
    ∃ before after, moveAll earlier row = some before ∧
      placement.move before = some after ∧
        moveAll later after = some result := by
  rw [moveAll_append] at h
  rcases Option.bind_eq_some_iff.mp h with ⟨before, hbefore, hrest⟩
  rw [moveAll_cons] at hrest
  rcases Option.bind_eq_some_iff.mp hrest with ⟨after, hafter, hlater⟩
  exact ⟨before, after, hbefore, hafter, hlater⟩

/-- What every move keeps, all of them keep. -/
theorem moveAll_keeps {P : Row → Prop} {placements : List Placement}
    (hmove : ∀ placement ∈ placements, ∀ row result,
      placement.move row = some result → P row → P result)
    (hall : moveAll placements row = some result) (h : P row) : P result := by
  induction placements generalizing row with
  | nil =>
      cases hall
      exact h
  | cons placement rest ih =>
      rw [moveAll_cons] at hall
      rcases Option.bind_eq_some_iff.mp hall with ⟨moved, hmoved, hrest⟩
      exact ih (fun other hother =>
        hmove other (List.mem_cons_of_mem placement hother)) hrest
          (hmove placement List.mem_cons_self row moved hmoved h)

theorem holds_of_moveAll {earlier later : List Placement}
    (hdistinct : ∀ other ∈ earlier ++ later, other.flat ≠ placement.flat)
    (hlonger : placement.column ≠ placement.flat)
    (hsafe : placement.Safe earlier later)
    (h : row.get? placement.flat = some value)
    (hall : moveAll (earlier ++ placement :: later) row = some result) :
    placement.Holds result value := by
  rcases moveAll_split hall with ⟨before, after, hbefore, hafter, hlater⟩
  have hkept : before.get? placement.flat = some value := by
    refine moveAll_keeps (P := fun row => row.get? placement.flat = some value)
      ?_ hbefore h
    intro other hother row moved hmove hrow
    have hmem := List.mem_append_left later hother
    rw [Placement.get?_of_move_other (hdistinct other hmem)
      (hsafe.column other hmem) hmove]
    exact hrow
  refine moveAll_keeps (P := fun row => placement.Holds row value) ?_ hlater
    (Placement.holds_of_move hlonger hkept hafter)
  intro other hother row moved hmove hrow
  have hmem := List.mem_append_right earlier hother
  exact hrow.of_move (hdistinct other hmem) (hsafe.column other hmem)
    (hsafe.flat other hother) (hsafe.path other hother) hmove

end Nesting
end SqlAssembler
