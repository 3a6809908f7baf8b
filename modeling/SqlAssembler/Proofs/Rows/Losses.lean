import Mathlib
import SqlAssembler.Proofs.Rows.Moving
import SqlAssembler.Proofs.Rows.Placements

/-!
# Values that are lost

Whenever some other placement gets in the way, there is a row in which it
destroys the value. The lost value is always text that can be opened, or one
that is carried off with its column. Together with the values that are kept,
this says exactly which placements are safe.
-/

namespace SqlAssembler

open Json (emptyText)

/-!
## A placement that stores into the flat key

If the way of the value itself is blocked, it stays under its flat key, and
there it is opened as a container. Short columns that hold `true` block it.
-/

def blockingRow (key : String) : List String → Row
  | [] => []
  | name :: rest =>
      (blockingRow key rest).set name
        (if name = key then emptyText else .bool true)

theorem get?_blockingRow (key : String) {names : List String} {name : String}
    (h : name ∈ names) :
    (blockingRow key names).get? name =
      some (if name = key then emptyText else .bool true) := by
  induction names with
  | nil => cases h
  | cons first rest ih =>
      rw [blockingRow, Members.get?_set]
      by_cases hfirst : first = name
      · rw [if_pos hfirst, hfirst]
      · rw [if_neg hfirst]
        rcases List.mem_cons.mp h with hsame | hrest
        · exact absurd hsame.symm hfirst
        · exact ih hrest

theorem nodup_blockingRow (key : String) (names : List String) :
    (blockingRow key names).keys.Nodup := by
  induction names with
  | nil => exact List.nodup_nil
  | cons name rest ih => exact Members.nodup_keys_set ih name _

def Json.IsObject (value : Json) : Prop :=
  ∃ members, value = .object members

def Json.HoldsObject (value : Json) : Prop :=
  value = emptyText ∨ value.IsObject

theorem Json.isObject_of_store {slot value filled : Json} {path : List String}
    {stored : Bool} (hslot : slot.HoldsObject) (hpath : path ≠ [])
    (h : slot.store path value = some (filled, stored)) : filled.IsObject := by
  cases path with
  | nil => exact absurd rfl hpath
  | cons key rest =>
      have hopened : ∃ members, slot.opened key = some (object members) := by
        rcases hslot with rfl | ⟨members, rfl⟩
        · exact ⟨[], opened_emptyText key⟩
        · exact ⟨members, rfl⟩
      rcases hopened with ⟨members, hopened⟩
      rcases (store_of_opened_eq_some_iff hopened).mp h with ⟨inner, _, hset⟩
      cases hset
      exact ⟨_, rfl⟩

theorem Json.holdsObject_of_store {slot value filled : Json}
    {path : List String} {stored : Bool} (hslot : slot.HoldsObject)
    (hpath : path ≠ []) (h : slot.store path value = some (filled, stored)) :
    filled.HoldsObject :=
  .inr (isObject_of_store hslot hpath h)

namespace Nesting

structure Blocks (nesting : Nesting) (key : String) (P : Json → Prop)
    (row : Row) : Prop where
  short : ∀ placement ∈ nesting.placements,
    placement.column.length < key.length →
      row.get? placement.column = some (.bool true)
  value : ∃ value, row.get? key = some value ∧ P value

variable {nesting : Nesting} {key : String} {P : Json → Prop}
  {row result : Row}

theorem ne_of_length_lt {key other : String} (h : key.length < other.length) :
    other ≠ key := by
  rintro rfl
  exact Nat.lt_irrefl _ h

theorem store_true {path : List String} (hpath : path ≠ []) (value : Json) :
    (Json.bool true).store path value = some (.bool true, false) := by
  cases path with
  | nil => exact absurd rfl hpath
  | cons key rest => rfl

theorem Blocks.of_move (hnesting : nesting.WellFormed)
    (hP : ∀ {slot value filled path stored}, P slot → path ≠ [] →
      Json.store slot path value = some (filled, stored) → P filled)
    {placement : Placement} (hmem : placement ∈ nesting.placements)
    (hmove : placement.move row = some result)
    (h : nesting.Blocks key P row) : nesting.Blocks key P result := by
  have hlonger := hnesting.longer placement hmem
  have hleads := hnesting.leads placement hmem
  cases hmoved : row.get? placement.flat with
  | none =>
      rw [Placement.move_of_absent hmoved] at hmove
      cases hmove
      exact h
  | some moved =>
      by_cases hlength : placement.column.length < key.length
      · have hslot : placement.slot row = .bool true := by
          rw [Placement.slot, h.short placement hmem hlength]
          rfl
        rcases (Placement.move_eq_some_iff hmoved).mp hmove with
          ⟨filled, stored, hstore, rfl⟩
        rw [hslot, store_true hleads] at hstore
        cases hstore
        constructor
        · intro other hother hshort
          rw [if_neg Bool.false_ne_true, Members.get?_set,
            h.short other hother hshort, ite_self]
        · rcases h.value with ⟨value, hvalue, hholds⟩
          refine ⟨value, ?_, hholds⟩
          rw [if_neg Bool.false_ne_true, Members.get?_set,
            if_neg (ne_of_length_lt hlength).symm]
          exact hvalue
      · have hflat : placement.flat ≠ key :=
          ne_of_length_lt (by omega)
        constructor
        · intro other hother hshort
          rw [Placement.get?_of_move_other (ne_of_length_lt (by omega))
            (ne_of_length_lt (by omega)) hmove]
          exact h.short other hother hshort
        · rcases h.value with ⟨value, hvalue, hholds⟩
          by_cases hcolumn : placement.column = key
          · rcases Placement.get?_of_move hmoved hmove with
              ⟨filled, stored, hstore, hget⟩
            have hslot : placement.slot row = value := by
              rw [Placement.slot, hcolumn, hvalue]
              rfl
            rw [hslot] at hstore
            refine ⟨filled, ?_, hP hholds hleads hstore⟩
            rw [hget key hflat, if_pos hcolumn]
          · refine ⟨value, ?_, hholds⟩
            rw [Placement.get?_of_move_other hflat hcolumn hmove]
            exact hvalue

def blockedRow (nesting : Nesting) (key : String) : Row :=
  blockingRow key (nesting.placements.flatMap fun placement =>
    [placement.column, placement.flat])

theorem get?_blockedRow {placement : Placement}
    (hmem : placement ∈ nesting.placements) {name : String}
    (hname : name = placement.column ∨ name = placement.flat) :
    (nesting.blockedRow key).get? name =
      some (if name = key then emptyText else .bool true) := by
  apply get?_blockingRow
  refine List.mem_flatMap.mpr ⟨placement, hmem, ?_⟩
  simpa using hname

theorem blocks_blockedRow {placement : Placement}
    (hmem : placement ∈ nesting.placements) :
    nesting.Blocks placement.flat Json.HoldsObject
      (nesting.blockedRow placement.flat) := by
  constructor
  · intro other hother hshort
    rw [get?_blockedRow hother (.inl rfl),
      if_neg (ne_of_length_lt hshort).symm]
  · refine ⟨emptyText, ?_, .inl rfl⟩
    rw [get?_blockedRow hmem (.inr rfl), if_pos rfl]

theorem isSome_get?_of_move {other : Placement} (hflat : other.flat ≠ key)
    (hmove : other.move row = some result)
    (h : (row.get? key).isSome = true) : (result.get? key).isSome = true := by
  cases hmoved : row.get? other.flat with
  | none =>
      rw [Placement.move_of_absent hmoved] at hmove
      cases hmove
      exact h
  | some moved =>
      rcases Placement.get?_of_move hmoved hmove with ⟨filled, _, _, hget⟩
      rw [hget key hflat]
      split
      · rfl
      · exact h

theorem apply_split {earlier later : List Placement} {placement : Placement}
    (hsplit : nesting.placements = earlier ++ placement :: later)
    (h : nesting.apply row = some result) :
    ∃ before after, moveAll earlier row = some before ∧
      placement.move before = some after ∧
        moveAll later after = some result := by
  apply moveAll_split
  rw [← hsplit]
  exact h

theorem blocks_of_move_of_column (hnesting : nesting.WellFormed)
    {other : Placement} (hother : other ∈ nesting.placements)
    (hcolumn : other.column = key)
    (h : nesting.Blocks key Json.HoldsObject row)
    (hpresent : (row.get? other.flat).isSome = true)
    (hmove : other.move row = some result) :
    nesting.Blocks key Json.IsObject result := by
  rcases Option.isSome_iff_exists.mp hpresent with ⟨moved, hmoved⟩
  rcases h.value with ⟨value, hvalue, hholds⟩
  have hlonger := hnesting.longer other hother
  have hleads := hnesting.leads other hother
  have hkept := h.of_move hnesting Json.holdsObject_of_store hother hmove
  rcases Placement.get?_of_move hmoved hmove with ⟨filled, _, hstore, hget⟩
  have hslot : other.slot row = value := by
    rw [Placement.slot, hcolumn, hvalue]
    rfl
  rw [hslot] at hstore
  refine ⟨hkept.short, filled, ?_,
    Json.isObject_of_store hholds hleads hstore⟩
  rw [hget key (ne_of_length_lt (by rw [← hcolumn]; exact hlonger)),
    if_pos hcolumn]

theorem not_holds_of_column (hnesting : nesting.WellFormed)
    {placement other : Placement} (hmem : placement ∈ nesting.placements)
    (hother : other ∈ nesting.placements)
    (hcolumn : other.column = placement.flat)
    (h : nesting.apply (nesting.blockedRow placement.flat) = some result) :
    ¬ placement.Holds result emptyText := by
  rcases List.append_of_mem hother with ⟨before, after, hsplit⟩
  have hmemBefore : ∀ earlier ∈ before, earlier ∈ nesting.placements := by
    intro earlier hearlier
    rw [hsplit]
    exact List.mem_append_left _ hearlier
  have hmemAfter : ∀ later ∈ after, later ∈ nesting.placements := by
    intro later hlater
    rw [hsplit]
    exact List.mem_append_right _ (List.mem_cons_of_mem other hlater)
  rcases apply_split hsplit h with ⟨first, next, hfirst, hnext, hlast⟩
  have hbefore := moveAll_keeps
    (P := fun row => nesting.Blocks placement.flat Json.HoldsObject row ∧
      (row.get? other.flat).isSome = true)
    (fun earlier hearlier row moved hmove hrow =>
      ⟨hrow.1.of_move hnesting Json.holdsObject_of_store
          (hmemBefore earlier hearlier) hmove,
        isSome_get?_of_move (hnesting.flat_ne hsplit earlier
          (List.mem_append_left _ hearlier)) hmove hrow.2⟩)
    hfirst
    ⟨blocks_blockedRow hmem, by rw [get?_blockedRow hother (.inr rfl)]; rfl⟩
  have hat :=
    blocks_of_move_of_column hnesting hother hcolumn hbefore.1 hbefore.2 hnext
  have hafter := moveAll_keeps
    (P := nesting.Blocks placement.flat Json.IsObject)
    (fun later hlater row moved hmove hrow => hrow.of_move hnesting
      (fun hslot hpath hstore =>
        Json.isObject_of_store (.inr hslot) hpath hstore)
      (hmemAfter later hlater) hmove)
    hlast hat
  rintro (hflat | ⟨slot, hslot, hread⟩)
  · rcases hafter.value with ⟨value, hvalue, members, rfl⟩
    rw [hflat] at hvalue
    cases hvalue
  · rw [hafter.short placement hmem (hnesting.longer placement hmem)] at hslot
    cases hslot
    cases hpath : placement.path with
    | nil => exact hnesting.leads placement hmem hpath
    | cons key rest =>
        rw [hpath] at hread
        cases hread

/-!
## A placement that moves away the column

In a row with one key every move goes through, and the key gets shorter with
each.
-/

theorem moveAll_of_absent {placements : List Placement}
    (h : ∀ placement ∈ placements, row.get? placement.flat = none) :
    moveAll placements row = some row := by
  induction placements with
  | nil => rfl
  | cons placement rest ih =>
      rw [moveAll_cons,
        Placement.move_of_absent (h placement List.mem_cons_self)]
      exact ih fun other hother => h other (List.mem_cons_of_mem placement hother)

theorem eq_of_move_single {placement : Placement}
    (hlonger : placement.column.length < placement.flat.length) {value : Json}
    (hmove : placement.move [(placement.flat, value)] = some result) :
    ∃ filled, result = [(placement.column, filled)] := by
  have hne := ne_of_length_lt hlonger
  have hflat : Members.get? [(placement.flat, value)] placement.flat =
      some value := by simp [Members.get?]
  rcases (Placement.move_eq_some_iff hflat).mp hmove with
    ⟨filled, stored, hstore, rfl⟩
  rw [Placement.slot_single hne.symm] at hstore
  rw [Json.stored_of_store_null hstore, if_pos rfl]
  exact ⟨filled, by simp [Members.set, Members.erase, hne]⟩

def IsSingle (length : Nat) (row : Row) : Prop :=
  ∃ name value, row = [(name, value)] ∧ name.length ≤ length

theorem IsSingle.of_move {length : Nat} {placement : Placement}
    (hlonger : placement.column.length < placement.flat.length)
    (hmove : placement.move row = some result) (h : IsSingle length row) :
    IsSingle length result := by
  rcases h with ⟨name, value, rfl, hlength⟩
  by_cases hflat : name = placement.flat
  · subst hflat
    rcases eq_of_move_single hlonger hmove with ⟨filled, rfl⟩
    exact ⟨_, _, rfl, by omega⟩
  · rw [Placement.move_of_absent (by simp [Members.get?, hflat])] at hmove
    cases hmove
    exact ⟨name, value, rfl, hlength⟩

theorem IsSingle.get?_eq_none {length : Nat} (h : IsSingle length row)
    (hkey : length < key.length) : row.get? key = none := by
  rcases h with ⟨name, value, rfl, hlength⟩
  have hne : name ≠ key := (ne_of_length_lt (by omega)).symm
  simp [Members.get?, hne]

theorem apply_split_single (hnesting : nesting.WellFormed)
    {earlier later : List Placement} {placement : Placement} {value : Json}
    (hsplit : nesting.placements = earlier ++ placement :: later)
    (h : nesting.apply [(placement.flat, value)] = some result) :
    ∃ filled, moveAll later [(placement.column, filled)] = some result := by
  have hbefore : moveAll earlier [(placement.flat, value)] =
      some [(placement.flat, value)] := by
    apply moveAll_of_absent
    intro other hother
    have hne := hnesting.flat_ne hsplit other (List.mem_append_left _ hother)
    simp [Members.get?, hne.symm]
  rcases apply_split hsplit h with ⟨before, after, hfirst, hmove, hlater⟩
  cases hbefore.symm.trans hfirst
  have hmem : placement ∈ nesting.placements := by
    rw [hsplit]
    simp
  rcases eq_of_move_single (hnesting.longer placement hmem) hmove with
    ⟨filled, rfl⟩
  exact ⟨filled, hlater⟩

/-- The value is moved to its column, and the column is moved away. -/
theorem isSingle_of_apply (hnesting : nesting.WellFormed)
    {earlier between after : List Placement} {placement other : Placement}
    (hsplit : nesting.placements =
      earlier ++ placement :: (between ++ other :: after))
    (hflat : other.flat = placement.column) {value : Json}
    (h : nesting.apply [(placement.flat, value)] = some result) :
    IsSingle other.column.length result := by
  have hsplitOther : nesting.placements =
      (earlier ++ placement :: between) ++ other :: after := by
    rw [hsplit]
    simp
  have hlonger : ∀ another ∈ other :: after,
      another.column.length < another.flat.length := by
    intro another hanother
    apply hnesting.longer
    rw [hsplitOther]
    exact List.mem_append_right _ hanother
  rcases apply_split_single hnesting hsplit h with ⟨filled, hlater⟩
  have hbetween : moveAll between [(placement.column, filled)] =
      some [(placement.column, filled)] := by
    apply moveAll_of_absent
    intro another hanother
    have hne := hnesting.flat_ne hsplitOther another
      (List.mem_append_left _ (by simp [hanother]))
    rw [hflat] at hne
    simp [Members.get?, hne.symm]
  rcases moveAll_split hlater with ⟨before, moved, hfirst, hmove, hrest⟩
  cases hbetween.symm.trans hfirst
  rw [← hflat] at hmove
  rcases eq_of_move_single (hlonger other List.mem_cons_self) hmove with
    ⟨last, rfl⟩
  refine moveAll_keeps (P := IsSingle other.column.length) ?_ hrest
    ⟨_, _, rfl, Nat.le_refl _⟩
  intro another hanother row moved hmove hrow
  exact hrow.of_move (hlonger another (List.mem_cons_of_mem other hanother))
    hmove

theorem not_holds_of_flat (hnesting : nesting.WellFormed)
    {earlier later : List Placement} {placement other : Placement}
    (hsplit : nesting.placements = earlier ++ placement :: later)
    (hother : other ∈ later) (hflat : other.flat = placement.column)
    {value : Json}
    (h : nesting.apply [(placement.flat, value)] = some result) :
    ¬ placement.Holds result value := by
  have hlonger := hnesting.longer placement (by rw [hsplit]; simp)
  have hlongerOther := hnesting.longer other (by rw [hsplit]; simp [hother])
  rw [hflat] at hlongerOther
  rcases List.append_of_mem hother with ⟨between, after, rfl⟩
  have hend := isSingle_of_apply hnesting hsplit hflat h
  rintro (hfound | ⟨slot, hslot, _⟩)
  · rw [hend.get?_eq_none (by omega)] at hfound
    cases hfound
  · rw [hend.get?_eq_none hlongerOther] at hslot
    cases hslot

/-!
## A placement that stores into the column

Both values are alone in their row, and the second one is stored over the first.
-/

theorem of_move_pair {placement : Placement}
    (hlonger : placement.column.length < placement.flat.length)
    {name : String} (hcolumn : name ≠ placement.column) {value kept : Json}
    (hmove : placement.move [(placement.flat, value), (name, kept)] =
      some result) :
    ∃ filled, Json.null.store placement.path value = some (filled, true) ∧
      result = [(name, kept), (placement.column, filled)] := by
  have hne := ne_of_length_lt hlonger
  have hpresent : Members.get? [(placement.flat, value), (name, kept)]
      placement.flat = some value := by simp [Members.get?]
  have hslot : placement.slot [(placement.flat, value), (name, kept)] =
      .null := by
    simp [Placement.slot, Members.get?, hne, hcolumn]
  rcases (Placement.move_eq_some_iff hpresent).mp hmove with
    ⟨filled, stored, hstore, rfl⟩
  rw [hslot] at hstore
  have hstored := Json.stored_of_store_null hstore
  subst hstored
  exact ⟨filled, hstore, by simp [Members.set, Members.erase, hne, hcolumn]⟩

theorem get?_pair_of_ne {first second key : String} (hfirst : first ≠ key)
    (hsecond : second ≠ key) (value other : Json) :
    Members.get? [(first, value), (second, other)] key = none := by
  simp [Members.get?, hfirst, hsecond]

theorem of_apply_pair (hnesting : nesting.WellFormed)
    {earlier between after : List Placement} {placement other : Placement}
    (hsplit : nesting.placements =
      earlier ++ placement :: (between ++ other :: after))
    (hcolumn : other.column = placement.column)
    (hflat : ∀ another ∈ between ++ other :: after,
      another.flat ≠ placement.column) {value later : Json}
    (h : nesting.apply [(placement.flat, value), (other.flat, later)] =
      some result) :
    ∃ filled, Json.null.store placement.path value = some (filled, true) ∧
      other.move [(other.flat, later), (placement.column, filled)] =
        some result := by
  have hsplitOther : nesting.placements =
      (earlier ++ placement :: between) ++ other :: after := by
    rw [hsplit]
    simp
  have hdistinct := hnesting.flat_ne hsplit
  have hdistinctOther := hnesting.flat_ne hsplitOther
  have hbefore : moveAll earlier
      [(placement.flat, value), (other.flat, later)] =
        some [(placement.flat, value), (other.flat, later)] := by
    apply moveAll_of_absent
    intro another hanother
    exact get?_pair_of_ne
      (hdistinct another (List.mem_append_left _ hanother)).symm
      (hdistinctOther another (by simp [hanother])).symm _ _
  rcases apply_split hsplit h with ⟨before, first, hfirst, hmove, hrest⟩
  cases hbefore.symm.trans hfirst
  rcases of_move_pair (hnesting.longer placement (by rw [hsplit]; simp))
    (hflat other (by simp)) hmove with ⟨filled, hstore, rfl⟩
  have hbetween :
      moveAll between [(other.flat, later), (placement.column, filled)] =
        some [(other.flat, later), (placement.column, filled)] := by
    apply moveAll_of_absent
    intro another hanother
    exact get?_pair_of_ne (hdistinctOther another (by simp [hanother])).symm
      (hflat another (by simp [hanother])).symm _ _
  rcases moveAll_split hrest with ⟨same, moved, hsame, hmoved, hafter⟩
  cases hbetween.symm.trans hsame
  have hlast : moveAll after moved = some moved := by
    apply moveAll_of_absent
    intro another hanother
    have hfirst := (hdistinctOther another (by simp [hanother])).symm
    have hsecond := (hflat another (by simp [hanother])).symm
    rw [Placement.get?_of_move_other hfirst (by rw [hcolumn]; exact hsecond)
      hmoved]
    exact get?_pair_of_ne hfirst hsecond _ _
  cases hlast.symm.trans hafter
  exact ⟨filled, hstore, hmoved⟩

theorem not_holds_of_path (hnesting : nesting.WellFormed)
    {earlier later : List Placement} {placement other : Placement}
    (hsplit : nesting.placements = earlier ++ placement :: later)
    (hother : other ∈ later) (hcolumn : other.column = placement.column)
    (hoverlaps : Json.overlaps placement.path other.path = true)
    (hflat : ∀ another ∈ later, another.flat ≠ placement.column)
    (h : nesting.apply
      [(placement.flat, emptyText), (other.flat, .bool true)] = some result) :
    ¬ placement.Holds result emptyText := by
  have hne := ne_of_length_lt
    (hnesting.longer placement (by rw [hsplit]; simp))
  have hflatOther := hnesting.flat_ne hsplit other
    (List.mem_append_right _ hother)
  have haway := hflat other hother
  rcases List.append_of_mem hother with ⟨between, after, rfl⟩
  rcases of_apply_pair hnesting hsplit hcolumn hflat h with
    ⟨filled, hfilled, hmove⟩
  rintro (hfound | ⟨slot, hfound, hread⟩)
  · rw [Placement.get?_of_move_other hflatOther
        (by rw [hcolumn]; exact hne.symm) hmove,
      get?_pair_of_ne hflatOther hne.symm] at hfound
    cases hfound
  · have hmoved : Members.get? [(other.flat, Json.bool true),
        (placement.column, filled)] other.flat = some (.bool true) := by
      simp [Members.get?]
    have hslot : other.slot [(other.flat, Json.bool true),
        (placement.column, filled)] = filled := by
      simp [Placement.slot, Members.get?, hcolumn, haway]
    rcases Placement.get?_of_move hmoved hmove with
      ⟨last, stored, hstore, hget⟩
    rw [hget _ haway, if_pos hcolumn] at hfound
    cases hfound
    rw [hslot] at hstore
    exact Json.read_store_store_ne hoverlaps hfilled hstore hread

/-!
## Exactly the safe placements keep all values
-/

theorem holds_apply_iff (hnesting : nesting.WellFormed)
    (hbounded : nesting.Bounded)
    {earlier later : List Placement} {placement : Placement}
    (hsplit : nesting.placements = earlier ++ placement :: later) :
    (∀ (row : Row) value, row.keys.Nodup →
        row.get? placement.flat = some value →
        ∃ result, nesting.apply row = some result ∧
          placement.Holds result value) ↔
      placement.Safe earlier later := by
  have hmem : placement ∈ nesting.placements := by
    rw [hsplit]
    simp
  have hdistinct := hnesting.flat_ne hsplit
  have hlonger := hnesting.longer placement hmem
  constructor
  · intro hkeeps
    have hflat : ∀ other ∈ later, other.flat ≠ placement.column := by
      intro other hother hsame
      rcases hkeeps [(placement.flat, .null)] .null (by simp [Members.keys])
        (by simp [Members.get?]) with ⟨result, hresult, hholds⟩
      exact not_holds_of_flat hnesting hsplit hother hsame hresult hholds
    refine ⟨?_, hflat, ?_⟩
    · intro other hother hsame
      have hmemOther : other ∈ nesting.placements := by
        rw [hsplit]
        rcases List.mem_append.mp hother with hbefore | hafter
        · exact List.mem_append_left _ hbefore
        · exact List.mem_append_right _ (List.mem_cons_of_mem _ hafter)
      have hpresent : (nesting.blockedRow placement.flat).get?
          placement.flat = some emptyText := by
        rw [get?_blockedRow hmem (.inr rfl), if_pos rfl]
      rcases hkeeps _ _ (nodup_blockingRow _ _) hpresent with
        ⟨result, hresult, hholds⟩
      exact not_holds_of_column hnesting hmem hmemOther hsame hresult hholds
    · intro other hother hcolumn
      cases hoverlaps : Json.overlaps placement.path other.path with
      | false => rfl
      | true =>
          have hne := hdistinct other (List.mem_append_right _ hother)
          rcases hkeeps [(placement.flat, emptyText), (other.flat, .bool true)]
            emptyText (by simp [Members.keys, hne.symm])
            (by simp [Members.get?]) with ⟨result, hresult, hholds⟩
          exact absurd hholds (not_holds_of_path hnesting hsplit hother hcolumn
            hoverlaps hflat hresult)
  · intro hsafe row value _ h
    rcases exists_apply hbounded row with ⟨result, hresult⟩
    refine ⟨result, hresult, ?_⟩
    have hall : moveAll (earlier ++ placement :: later) row = some result := by
      rw [← hsplit]
      exact hresult
    exact holds_of_moveAll hdistinct (ne_of_length_lt hlonger).symm hsafe h hall

end Nesting

namespace SelectBuilder

/-- In the results of a selection, the value under a flat key is found there or
at its path, whatever the row, if and only if no other placement gets in the
way. No row is refused, as long as no index is too large. -/
theorem nesting_holds_iff_safe (settings : Settings) (table : String)
    (calls : List SelectCall) (earlier later : List Placement)
    (placement : Placement)
    (hbounded : ((start settings table).recordAll calls).nesting.Bounded)
    (hsplit : ((start settings table).recordAll calls).nesting.placements =
      earlier ++ placement :: later) :
    (∀ (row : Row) value, row.keys.Nodup →
        row.get? placement.flat = some value →
        ∃ result,
          ((start settings table).recordAll calls).nesting.apply row =
            some result ∧
          placement.Holds result value) ↔
      placement.Safe earlier later :=
  Nesting.holds_apply_iff (wellFormed_nesting settings table calls) hbounded
    hsplit

/-!
## Two selections
-/

def selecting (columns : List Column) : Recording Selection :=
  ⟨{ Selection.empty with table := some ⟨[⟨"t", false⟩]⟩, columns }, none⟩

theorem start_selecting : start .standard "t" = ⟨.standard, selecting []⟩ := by
  cbv

theorem attempt_selecting {raw key : String} {column : Column}
    {columns : List Column}
    (hcolumn : Column.parseProjection .standard (some ⟨[⟨"t", false⟩]⟩) raw =
      .ok column)
    (hkey : column.resultKey = some key)
    (hnew : (columns.any fun other => other.resultKey = some key) = false) :
    (selecting columns).attempt (Selection.project .standard raw) =
      selecting (columns ++ [column]) :=
  Recording.attempt_of_ok
    (Selection.project_of_parseProjection hcolumn hkey hnew)

theorem recordAll_of_two {first second key otherKey : String}
    {column other : Column}
    (hcolumn : Column.parseProjection .standard (some ⟨[⟨"t", false⟩]⟩) first =
      .ok column)
    (hother : Column.parseProjection .standard (some ⟨[⟨"t", false⟩]⟩) second =
      .ok other)
    (hkey : column.resultKey = some key)
    (hotherKey : other.resultKey = some otherKey) (hne : key ≠ otherKey) :
    (start .standard "t").recordAll [.select [first, second]] =
      ⟨.standard, selecting [column, other]⟩ := by
  rw [recordAll_eq, start_selecting]
  simp only [List.flatMap_cons, List.flatMap_nil, SelectCall.edits,
    List.map_cons, List.map_nil, List.append_nil, Recording.attemptAll,
    List.foldl_cons, List.foldl_nil]
  rw [attempt_selecting hcolumn hkey rfl,
    attempt_selecting hother hotherKey (by simp [hkey, hne])]
  rfl

theorem nesting_of_two {first second key otherKey : String}
    {column other : Column}
    (hcolumn : Column.parseProjection .standard (some ⟨[⟨"t", false⟩]⟩) first =
      .ok column)
    (hother : Column.parseProjection .standard (some ⟨[⟨"t", false⟩]⟩) second =
      .ok other)
    (hkey : column.resultKey = some key)
    (hotherKey : other.resultKey = some otherKey) (hne : key ≠ otherKey) :
    ((start .standard "t").recordAll [.select [first, second]]).nesting =
      .ofColumns [column, other] := by
  rw [recordAll_of_two hcolumn hother hkey hotherKey hne]
  rfl

theorem parseProjection_b :
    Column.parseProjection .standard (some ⟨[⟨"t", false⟩]⟩) "a->b" =
      .ok (.json ⟨[⟨"t", false⟩, ⟨"a", false⟩]⟩ ["b"] none) := by
  cbv

/-- Two keys of one column do not get in each other's way. -/
theorem nesting_holds_of_siblings :
    ((start .standard "t").recordAll
        [.select ["a->b", "a->c"]]).nesting.placements =
      [⟨"a_b", "a", ["b"]⟩] ++ ⟨"a_c", "a", ["c"]⟩ :: [] ∧
    ((start .standard "t").recordAll
      [.select ["a->b", "a->c"]]).nesting.Bounded ∧
    ∀ (row : Row) value, row.keys.Nodup → row.get? "a_c" = some value →
      ∃ result, ((start .standard "t").recordAll
          [.select ["a->b", "a->c"]]).nesting.apply row = some result ∧
        Placement.Holds ⟨"a_c", "a", ["c"]⟩ result value := by
  have hc : Column.parseProjection .standard (some ⟨[⟨"t", false⟩]⟩) "a->c" =
      .ok (.json ⟨[⟨"t", false⟩, ⟨"a", false⟩]⟩ ["c"] none) := by cbv
  have hsplit : ((start .standard "t").recordAll
      [.select ["a->b", "a->c"]]).nesting.placements =
        [⟨"a_b", "a", ["b"]⟩] ++ ⟨"a_c", "a", ["c"]⟩ :: [] := by
    rw [nesting_of_two parseProjection_b hc rfl rfl (by decide)]
    cbv
  have hbounded : ((start .standard "t").recordAll
      [.select ["a->b", "a->c"]]).nesting.Bounded := by
    rw [Nesting.Bounded, hsplit]
    decide
  refine ⟨hsplit, hbounded,
    (nesting_holds_iff_safe .standard "t" _ _ _ _ hbounded hsplit).mpr ?_⟩
  constructor
  · decide
  · decide
  · decide

/-- The longer path is filled first, and the shorter one then overwrites it,
although a value that cannot be placed should stay under its flat key. -/
theorem nesting_loses_deeper_value :
    ((start .standard "t").recordAll
        [.select ["a->b->c", "a->b"]]).nesting.placements =
      [⟨"a_b_c", "a", ["b", "c"]⟩, ⟨"a_b", "a", ["b"]⟩] ∧
    ((start .standard "t").recordAll
      [.select ["a->b->c", "a->b"]]).nesting.apply
        [("a_b_c", .string "x"), ("a_b", .string "y")] =
      some [("a", .object [("b", .string "y")])] ∧
    ¬ Placement.Holds ⟨"a_b_c", "a", ["b", "c"]⟩
      [("a", .object [("b", .string "y")])] (.string "x") := by
  have htrim : Text.trim "a->b->c".toList = "a->b->c".toList := by decide
  have hlabel : Column.splitLabel "a->b->c".toList =
      ("a->b->c".toList, none) := by cbv
  have hexpression : Column.parseExpression .standard
      (some ⟨[⟨"t", false⟩]⟩) none "a->b->c".toList =
        .ok (.json ⟨[⟨"t", false⟩, ⟨"a", false⟩]⟩ ["b", "c"] none) := by cbv
  have hdeep : Column.parseProjection .standard (some ⟨[⟨"t", false⟩]⟩)
      "a->b->c" =
        .ok (.json ⟨[⟨"t", false⟩, ⟨"a", false⟩]⟩ ["b", "c"] none) := by
    rw [Column.parseProjection, htrim, hlabel]
    exact hexpression
  rw [nesting_of_two hdeep parseProjection_b rfl rfl (by decide)]
  refine ⟨by cbv, by cbv, ?_⟩
  rintro (hflat | ⟨slot, hslot, hread⟩)
  · cases hflat
  · cases hslot
    cases hread

end SelectBuilder
end SqlAssembler
