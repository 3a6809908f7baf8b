import SqlAssembler.Proofs.Rows.Paths

/-!
# Containers along a path

A container takes the keys of one kind: indices if it is an array, and names if
it is an object. Setting the value below a key that it takes changes what is
below the keys that meet it, and adds nothing else but nulls before an item.
-/

namespace SqlAssembler
namespace Json

def takes : Json → String → Bool
  | array _, key => (indexOfKey? key).isSome
  | object _, key => (indexOfKey? key).isNone
  | _, _ => false

def Precedes (key other : String) : Prop :=
  ∃ index otherIndex, indexOfKey? key = some index ∧
    indexOfKey? other = some otherIndex ∧ index < otherIndex

variable {container : Json} {key other : String}

/-!
## Keys that meet
-/

theorem meets_self (key : String) : meets key key = true := by
  simp [meets]

theorem meets_congr (h : meets key other = true)
    (first : String) : meets first key = meets first other := by
  rcases meets_iff.mp h with rfl | ⟨index, hkey, hother⟩
  · rfl
  · apply Bool.eq_iff_iff.mpr
    rw [meets_iff, meets_iff, hkey, hother]
    constructor
    · rintro (rfl | hindex)
      · exact .inr ⟨index, hkey, rfl⟩
      · exact .inr hindex
    · rintro (rfl | hindex)
      · exact .inr ⟨index, hother, rfl⟩
      · exact .inr hindex

theorem isSome_index_of_meets (h : meets key other = true) :
    (indexOfKey? key).isSome = (indexOfKey? other).isSome := by
  rcases meets_iff.mp h with rfl | ⟨index, hkey, hother⟩
  · rfl
  · rw [hkey, hother]

theorem meets_iff_of_name (h : indexOfKey? key = none) :
    meets key other = true ↔ key = other := by
  simp [meets, h]

theorem meets_iff_of_index {index otherIndex : Nat}
    (hkey : indexOfKey? key = some index)
    (hother : indexOfKey? other = some otherIndex) :
    meets key other = true ↔ index = otherIndex := by
  rw [meets_iff, hkey, hother]
  constructor
  · rintro (rfl | ⟨both, hleft, hright⟩)
    · exact Option.some.inj (hkey.symm.trans hother)
    · exact (Option.some.inj hleft).trans (Option.some.inj hright).symm
  · rintro rfl
    exact .inr ⟨_, rfl, rfl⟩

theorem precedes_iff_of_index {index otherIndex : Nat}
    (hkey : indexOfKey? key = some index)
    (hother : indexOfKey? other = some otherIndex) :
    Precedes key other ↔ index < otherIndex := by
  rw [Precedes, hkey, hother]
  constructor
  · rintro ⟨_, _, hleft, hright, hlt⟩
    cases hleft
    cases hright
    exact hlt
  · intro hlt
    exact ⟨_, _, rfl, rfl, hlt⟩

/-!
## Opened containers
-/

theorem takes_congr
    (h : (indexOfKey? key).isSome = (indexOfKey? other).isSome) :
    container.takes key = container.takes other := by
  cases container with
  | object members =>
      simp only [takes, ← Option.not_isSome, h]
  | array items => exact h
  | _ => rfl

theorem opened_of_takes (h : container.takes key = true) :
    container.opened key = some container := by
  cases container with
  | object members => rfl
  | array items =>
      rw [takes] at h
      simp [opened, h]
  | _ => cases h

theorem takes_of_opened_null (h : null.opened key = some container) :
    container.takes key = true := by
  cases hkey : indexOfKey? key with
  | none =>
      have hobject : null.opened key = some (object []) := by
        simp [opened, hkey]
      cases hobject.symm.trans h
      simp [takes, hkey]
  | some index =>
      have harray : null.opened key = some (array []) := by
        simp [opened, hkey]
      cases harray.symm.trans h
      simp [takes, hkey]

/-!
## Setting a value
-/

theorem takes_of_setChild {value filled : Json}
    (h : container.setChild key value = some filled) :
    filled.takes other = container.takes other := by
  cases container with
  | array items =>
      cases hindex : indexOfKey? key with
      | none =>
          simp only [setChild, hindex] at h
          cases h
          rfl
      | some index =>
          simp only [setChild, hindex, Option.map_eq_some_iff] at h
          rcases h with ⟨grown, _, rfl⟩
          rfl
  | _ =>
      cases h
      rfl

theorem child_of_setChild {value filled : Json}
    (hkey : container.takes key = true)
    (hother : container.takes other = true)
    (h : container.setChild key value = some filled) :
    filled.child other =
      if meets key other then value else container.child other := by
  cases container with
  | object members =>
      rw [takes, Option.isNone_iff_eq_none] at hkey
      cases h
      simp only [child, Members.get?_set, meets_iff_of_name hkey]
      split <;> rfl
  | array items =>
      rcases Option.isSome_iff_exists.mp hkey with ⟨index, hindex⟩
      rcases Option.isSome_iff_exists.mp hother with ⟨otherIndex, hotherIndex⟩
      have hle := indexOfKey?_le hindex
      simp only [setChild, hindex, Option.map_eq_some_iff] at h
      rcases h with ⟨grown, hgrown, rfl⟩
      simp only [child, hotherIndex, Option.bind_some,
        meets_iff_of_index hindex hotherIndex]
      split
      · rename_i hsame
        rw [← hsame, getElem?_of_setItem hle hgrown]
        rfl
      · rename_i hne
        rw [getElem?_of_setItem_getD hle (Ne.symm hne) hgrown]
  | _ => cases hkey

theorem isSome_item?_of_setChild {value filled : Json}
    (hkey : container.takes key = true)
    (h : container.setChild key value = some filled) :
    (filled.item? other).isSome = true ↔
      (container.item? other).isSome = true ∨ meets key other = true ∨
        container.takes other = true ∧ Precedes other key := by
  cases container with
  | object members =>
      rw [takes, Option.isNone_iff_eq_none] at hkey
      have hlower : ¬ Precedes other key := by
        intro hprecedes
        rcases hprecedes with ⟨_, _, _, hindex, _⟩
        rw [hkey] at hindex
        cases hindex
      cases h
      simp only [item?, Members.get?_set, meets_iff_of_name hkey,
        hlower, and_false, or_false]
      by_cases hsame : key = other <;> simp [hsame]
  | array items =>
      rcases Option.isSome_iff_exists.mp hkey with ⟨index, hindex⟩
      have hle := indexOfKey?_le hindex
      simp only [setChild, hindex, Option.map_eq_some_iff] at h
      rcases h with ⟨grown, hgrown, rfl⟩
      cases hother : indexOfKey? other with
      | none =>
          have hne : key ≠ other := by
            intro hsame
            rw [← hsame, hindex] at hother
            cases hother
          simp [item?, hindex, hother, meets, takes, hne]
      | some otherIndex =>
          simp only [item?, hother, Option.bind_some, isSome_getElem?,
            length_of_setItem hle hgrown, meets_iff_of_index hindex hother,
            precedes_iff_of_index hother hindex, takes, Option.isSome_some,
            true_and]
          omega
  | _ => cases hkey

end Json
end SqlAssembler
