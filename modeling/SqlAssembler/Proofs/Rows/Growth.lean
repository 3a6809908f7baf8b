import Mathlib
import SqlAssembler.Row.Nesting

/-!
# Growth of arrays

An array is filled up with nulls until it has the index that is asked for. This
succeeds for every index but the largest word, because an array that has that
index too is longer than a word can say.
-/

namespace SqlAssembler

/-!
## Lengths in words
-/

theorem toNat_toUInt64 {n : Nat} (h : n ≤ greatestIndex) :
    n.toUInt64.toNat = n := by
  apply UInt64.toNat_ofNat_of_lt
  rw [greatestIndex] at h
  exact Nat.lt_succ_of_le h

theorem toNat_grownLength {length index : UInt64}
    (h : index.toNat ≠ greatestIndex) :
    (grownLength length index).toNat = max length.toNat (index.toNat + 1) := by
  have hword := UInt64.toNat_lt index
  rw [greatestIndex] at h
  rw [grownLength]
  split
  · rename_i hle
    rw [UInt64.le_iff_toNat_le] at hle
    rw [UInt64.toNat_add, UInt64.toNat_one]
    omega
  · rename_i hlt
    rw [UInt64.le_iff_toNat_le] at hlt
    omega

/-- Where the new length is no word, nothing is left of the array. -/
theorem grownLength_greatest {length index : UInt64}
    (h : index.toNat = greatestIndex) : grownLength length index = 0 := by
  have hword := UInt64.toNat_lt length
  rw [greatestIndex] at h
  have hle : length ≤ index := by
    rw [UInt64.le_iff_toNat_le]
    omega
  rw [grownLength, if_pos hle, ← UInt64.toNat_inj, UInt64.toNat_add, h]
  rfl

theorem grownLength_of_lt {length index : UInt64} (h : index < length) :
    grownLength length index = length :=
  if_neg (UInt64.not_le.mpr h)

theorem indexOfKey?_le {key : String} {index : Nat}
    (h : indexOfKey? key = some index) : index ≤ greatestIndex := by
  rw [indexOfKey?] at h
  simp only [Option.ite_none_left_eq_some, Option.some.injEq, Bool.or_eq_true,
    decide_eq_true_eq, not_or] at h
  rcases h with ⟨⟨_, hsmall⟩, rfl⟩
  exact Nat.le_of_not_lt hsmall

/-!
## Items
-/

variable {items result : List Json} {index : Nat}

def paddedTo (items : List Json) (index : Nat) : List Json :=
  items ++ List.replicate (index + 1 - items.length) .null

theorem length_paddedTo :
    (paddedTo items index).length = max items.length (index + 1) := by
  rw [paddedTo, List.length_append, List.length_replicate]
  omega

theorem paddedTo_of_lt (h : index < items.length) :
    paddedTo items index = items := by
  rw [paddedTo, Nat.sub_eq_zero_of_le h, List.replicate_zero, List.append_nil]

theorem toNat_grownLength_le (hindex : index < items.length) :
    (grownLength items.length.toUInt64 index.toUInt64).toNat ≤
      items.length := by
  by_cases hlength : items.length ≤ greatestIndex
  · have hlt : index.toUInt64 < items.length.toUInt64 := by
      rw [UInt64.lt_iff_toNat_lt, toNat_toUInt64 hlength,
        toNat_toUInt64 (by omega)]
      exact hindex
    rw [grownLength_of_lt hlt, toNat_toUInt64 hlength]
  · have hword :=
      UInt64.toNat_lt (grownLength items.length.toUInt64 index.toUInt64)
    rw [greatestIndex] at hlength
    omega

theorem setItem_of_lt (value : Json) (hindex : index < items.length) :
    setItem items index value = some (items.set index value) := by
  have hle := toNat_grownLength_le hindex
  simp only [setItem, Nat.sub_eq_zero_of_le hle, List.replicate_zero,
    List.append_nil]
  exact if_pos hindex

theorem setItem_of_grows (items : List Json) (value : Json)
    (hindex : index < greatestIndex) :
    setItem items index value =
      some ((paddedTo items index).set index value) := by
  by_cases hlt : index < items.length
  · rw [setItem_of_lt value hlt, paddedTo_of_lt hlt]
  · have hword := toNat_toUInt64 (Nat.le_of_lt hindex)
    have hgrown : items ++ List.replicate
        ((grownLength items.length.toUInt64 index.toUInt64).toNat -
          items.length) Json.null = paddedTo items index := by
      rw [paddedTo, toNat_grownLength (by omega), hword,
        toNat_toUInt64 (by omega)]
      congr 2
      omega
    simp only [setItem, hgrown, length_paddedTo]
    exact if_pos (by omega)

theorem setItem_greatest (value : Json)
    (hitems : items.length ≤ greatestIndex) :
    setItem items greatestIndex value = none := by
  have hzero : grownLength items.length.toUInt64 greatestIndex.toUInt64 = 0 :=
    grownLength_greatest (toNat_toUInt64 (Nat.le_refl _))
  have hlt : ¬ greatestIndex < items.length := Nat.not_lt.mpr hitems
  simp [setItem, hzero, hlt]

theorem eq_of_setItem {value : Json} (hindex : index ≤ greatestIndex)
    (h : setItem items index value = some result) :
    result = (paddedTo items index).set index value := by
  rcases Nat.lt_or_eq_of_le hindex with hlt | rfl
  · rw [setItem_of_grows items value hlt] at h
    exact (Option.some.inj h).symm
  · by_cases hitems : items.length ≤ greatestIndex
    · rw [setItem_greatest value hitems] at h
      cases h
    · have hlt := Nat.lt_of_not_le hitems
      rw [setItem_of_lt value hlt] at h
      rw [paddedTo_of_lt hlt]
      exact (Option.some.inj h).symm

theorem length_of_setItem {value : Json} (hindex : index ≤ greatestIndex)
    (h : setItem items index value = some result) :
    result.length = max items.length (index + 1) := by
  rw [eq_of_setItem hindex h, List.length_set, length_paddedTo]

theorem getElem?_of_setItem {value : Json} (hindex : index ≤ greatestIndex)
    (h : setItem items index value = some result) :
    result[index]? = some value := by
  rw [eq_of_setItem hindex h, List.getElem?_set_self]
  rw [length_paddedTo]
  omega

theorem getElem?_of_setItem_of_ne {other : Nat} {value old : Json}
    (hother : other ≤ greatestIndex) (hne : other ≠ index)
    (hold : items[index]? = some old)
    (h : setItem items other value = some result) :
    result[index]? = some old := by
  rcases List.getElem?_eq_some_iff.mp hold with ⟨hlt, _⟩
  rw [eq_of_setItem hother h, List.getElem?_set_ne hne, paddedTo,
    List.getElem?_append_left hlt]
  exact hold

theorem getElem?_of_setItem_getD {other : Nat} {value : Json}
    (hindex : index ≤ greatestIndex) (hne : other ≠ index)
    (h : setItem items index value = some result) :
    (result[other]?).getD .null = (items[other]?).getD .null := by
  rw [eq_of_setItem hindex h, List.getElem?_set_ne hne.symm, paddedTo,
    List.getElem?_append]
  split
  · rfl
  · rename_i hlength
    rw [List.getElem?_eq_none (Nat.le_of_not_lt hlength),
      List.getElem?_replicate]
    split <;> rfl

/-!
## Keys that are not too large
-/

namespace Json

def isNumeral (key : String) : Bool :=
  !key.toList.isEmpty && key.toList.all Char.isDigit

/-- An index that is written in digits is not too large. -/
def Bounded (key : String) : Prop :=
  isNumeral key = true → Decimal.ofDigits key.toList < 2 ^ 32

instance : DecidablePred Bounded := fun key =>
  inferInstanceAs
    (Decidable (isNumeral key = true → Decimal.ofDigits key.toList < 2 ^ 32))

theorem indexOfKey?_of_bounded {key : String} (h : Bounded key) :
    indexOfKey? key =
      if isNumeral key then some (Decimal.ofDigits key.toList) else none := by
  rw [indexOfKey?]
  cases hnumeral : isNumeral key with
  | false =>
      have hkey : (key.toList.isEmpty || !key.toList.all Char.isDigit) =
          true := by
        rw [isNumeral] at hnumeral
        cases hempty : key.toList.isEmpty <;> simp_all
      simp only [hkey, Bool.true_or, if_true, Bool.false_eq_true, if_false]
  | true =>
      have hlt := h hnumeral
      have hsmall : ¬ greatestIndex < Decimal.ofDigits key.toList := by
        rw [greatestIndex]
        omega
      rw [isNumeral, Bool.and_eq_true, Bool.not_eq_true'] at hnumeral
      simp [hnumeral.1, hnumeral.2, hsmall]

theorem lt_greatestIndex_of_bounded {key : String} {index : Nat}
    (hkey : Bounded key) (h : indexOfKey? key = some index) :
    index < greatestIndex := by
  rw [indexOfKey?_of_bounded hkey] at h
  rcases Option.ite_none_right_eq_some.mp h with ⟨hnumeral, hindex⟩
  have hlt := hkey hnumeral
  rw [Option.some.inj hindex] at hlt
  rw [greatestIndex]
  omega

theorem exists_setChild {key : String} (hkey : Bounded key)
    (container value : Json) :
    ∃ filled, container.setChild key value = some filled := by
  cases container with
  | array items =>
      cases hindex : indexOfKey? key with
      | none => exact ⟨array items, by simp [setChild, hindex]⟩
      | some index =>
          have hset := setItem_of_grows items value
            (lt_greatestIndex_of_bounded hkey hindex)
          refine ⟨array ((paddedTo items index).set index value), ?_⟩
          simp only [setChild, hindex, hset, Option.map_some]
  | _ => exact ⟨_, rfl⟩

theorem exists_store {path : List String} (hpath : ∀ key ∈ path, Bounded key)
    (slot value : Json) :
    ∃ filled stored, slot.store path value = some (filled, stored) := by
  induction path generalizing slot with
  | nil => exact ⟨value, true, rfl⟩
  | cons key rest ih =>
      cases hopened : slot.opened key with
      | none => exact ⟨slot, false, by rw [store, hopened]⟩
      | some container =>
          rcases ih (fun other hother =>
            hpath other (List.mem_cons_of_mem key hother))
              (container.child key) with ⟨inner, stored, hinner⟩
          rcases exists_setChild (hpath key List.mem_cons_self) container inner
            with ⟨filled, hfilled⟩
          refine ⟨filled, stored, ?_⟩
          simp only [store, hopened, hinner, hfilled, Option.bind_eq_bind,
            Option.bind_some, Option.pure_def]

end Json

end SqlAssembler
