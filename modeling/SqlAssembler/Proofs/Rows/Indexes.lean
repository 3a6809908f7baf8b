import SqlAssembler.Proofs.Grammar.Distinct
import SqlAssembler.Proofs.Rows.Containers

/-!
# Keys that are indexes

A key of digits is written as an index in the path of an extraction, and nesting
takes it for the index of an array if its number is a word. So the two agree on
all keys but those of digits whose number is too large. An array is grown to one
item more than the index; therefore the largest word is an index that no array
of words can have.
-/

namespace SqlAssembler
namespace Json

/-!
## Keys
-/

theorem indexOfKey?_eq_some_iff {key : String} {index : Nat} :
    indexOfKey? key = some index ↔
      key.toList ≠ [] ∧ Column.isIndexKey key = true ∧
        Decimal.ofDigits key.toList ≤ greatestIndex ∧
        Decimal.ofDigits key.toList = index := by
  rw [indexOfKey?, Column.isIndexKey]
  simp only [Bool.or_eq_true, Bool.not_eq_true', decide_eq_true_eq]
  split
  · rename_i hnone
    grind
  · rename_i hsome
    grind

theorem isSome_indexOfKey?_iff {key : String} (hne : key ≠ "") :
    (indexOfKey? key).isSome = true ↔
      Column.isIndexKey key = true ∧
        Decimal.ofDigits key.toList ≤ greatestIndex := by
  have hcs : key.toList ≠ [] := by
    rwa [Ne, String.toList_eq_nil_iff]
  rw [Option.isSome_iff_exists]
  constructor
  · rintro ⟨index, hindex⟩
    rcases indexOfKey?_eq_some_iff.mp hindex with ⟨_, hdigits, hle, _⟩
    exact ⟨hdigits, hle⟩
  · rintro ⟨hdigits, hle⟩
    exact ⟨_, indexOfKey?_eq_some_iff.mpr ⟨hcs, hdigits, hle, rfl⟩⟩

theorem keySql_eq_index_iff {key : String} :
    Column.keySql key = "[" ++ key ++ "]" ↔ Column.isIndexKey key = true := by
  rw [← String.toList_inj]
  cases hindex : Column.isIndexKey key with
  | true =>
      rw [Column.toList_keySql_index hindex]
      simp
  | false =>
      rw [Column.toList_keySql_name hindex]
      simp

theorem ne_empty_of_parsePath {cs : List Char} {path : List String}
    (h : Column.parsePath cs = .ok path) {key : String} (hkey : key ∈ path) :
    key ≠ "" := by
  have hmem : .ok key ∈
      (Column.splitKeys cs).map (Column.parseKey (String.ofList cs)) := by
    rw [mapM_eq_ok_iff.mp h]
    exact List.mem_map_of_mem hkey
  rcases List.mem_map.mp hmem with ⟨segment, _, hparse⟩
  exact (Column.parseKey_eq_ok_iff.mp hparse).nonempty

/-!
## Lengths in words
-/

/-- An array can be grown in words until it has the index: the new length is a
word, it is the length that setting an item gives, and the index lies below. -/
structure Grows (items : List Json) (index : Nat) : Prop where
  fits : index + 1 ≤ greatestIndex
  length : ∀ value, ∃ result, setItem items index value = some result ∧
    (grownLength items.length.toUInt64 index.toUInt64).toNat = result.length
  below : index.toUInt64 < grownLength items.length.toUInt64 index.toUInt64

theorem grows_iff {items : List Json} {index : Nat}
    (hitems : items.length ≤ greatestIndex) (hindex : index ≤ greatestIndex) :
    Grows items index ↔ index ≠ greatestIndex := by
  have hlength := toNat_toUInt64 hitems
  have hword := toNat_toUInt64 hindex
  constructor
  · intro h
    have hfits := h.fits
    omega
  · intro hne
    have hgrown : (grownLength items.length.toUInt64 index.toUInt64).toNat =
        max items.length (index + 1) := by
      rw [toNat_grownLength (by rwa [hword]), hlength, hword]
    refine ⟨by omega, ?_, ?_⟩
    · intro value
      have hset := setItem_of_grows items value
        (Nat.lt_of_le_of_ne hindex hne)
      exact ⟨_, hset, by rw [hgrown, length_of_setItem hindex hset]⟩
    · rw [UInt64.lt_iff_toNat_lt, hgrown, hword]
      omega

/-!
## Agreement
-/

end Json
end SqlAssembler
