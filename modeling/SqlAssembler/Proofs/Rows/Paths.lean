import SqlAssembler.Proofs.Rows.Growth

/-!
# Reading at a path

Reading is the reverse of storing, except that it opens nothing: it goes through
objects and arrays only. What was stored at a path is read there. A later store
leaves it alone if the two paths part at some key, and can destroy it if neither
path parts from the other.
-/

namespace SqlAssembler
namespace Json

def item? (container : Json) (key : String) : Option Json :=
  match container with
  | object members => Members.get? members key
  | array items => (indexOfKey? key).bind fun index => items[index]?
  | _ => none

def read : Json → List String → Option Json
  | value, [] => some value
  | value, key :: rest => (value.item? key).bind fun inner => read inner rest

theorem child_eq (container : Json) (key : String) :
    container.child key = (container.item? key).getD null := by
  cases container <;> rfl

/-!
## One key
-/

/-- Two keys that address the same place of some container: equal ones, and two
spellings of one index. -/
def meets (key other : String) : Bool :=
  key = other ||
    ((indexOfKey? key).isSome && indexOfKey? key = indexOfKey? other)

theorem opened_cases {slot container : Json} {key : String}
    (h : slot.opened key = some container) :
    (∃ members, container = object members) ∨
      ∃ items index, container = array items ∧
        indexOfKey? key = some index := by
  have hindex : (indexOfKey? key).isSome = true →
      ∃ index, indexOfKey? key = some index := Option.isSome_iff_exists.mp
  simp only [opened] at h
  split at h
  · cases h
    exact .inl ⟨_, rfl⟩
  · split at h
    · rename_i hsome
      cases h
      rcases hindex hsome with ⟨index, hkey⟩
      exact .inr ⟨_, index, rfl, hkey⟩
    · cases h
  · cases h
    split
    · rename_i hsome
      rcases hindex hsome with ⟨index, hkey⟩
      exact .inr ⟨[], index, rfl, hkey⟩
    · exact .inl ⟨[], rfl⟩
  · split at h
    · cases h
      exact .inl ⟨_, rfl⟩
    · split at h
      · rename_i hsome
        cases h
        rcases hindex hsome with ⟨index, hkey⟩
        exact .inr ⟨_, index, rfl, hkey⟩
      · cases h
    · cases h
  · cases h

theorem item?_setChild {slot container filled value : Json} {key : String}
    (h : slot.opened key = some container)
    (hset : container.setChild key value = some filled) :
    filled.item? key = some value := by
  rcases opened_cases h with ⟨members, rfl⟩ | ⟨items, index, rfl, hindex⟩
  · cases hset
    simp [item?]
  · simp only [setChild, hindex, Option.map_eq_some_iff] at hset
    rcases hset with ⟨grown, hgrown, rfl⟩
    simp [item?, hindex, getElem?_of_setItem (indexOfKey?_le hindex) hgrown]

theorem item?_setChild_other {container inner value filled : Json}
    {key other : String} (h : container.item? key = some inner)
    (hset : container.setChild other value = some filled) :
    (meets key other = true ∧ container.item? other = some inner ∧
      filled.item? key = some value) ∨ filled.item? key = some inner := by
  cases container with
  | object members =>
      cases hset
      by_cases hother : other = key
      · subst hother
        exact .inl ⟨by simp [meets], h, by simp [item?]⟩
      · right
        simp only [item?, Members.get?_set, hother, if_false]
        exact h
  | array items =>
      rcases Option.bind_eq_some_iff.mp h with ⟨index, hindex, hitem⟩
      cases hother : indexOfKey? other with
      | none =>
          right
          simp only [setChild, hother] at hset
          cases hset
          exact h
      | some otherIndex =>
          have hle := indexOfKey?_le hother
          simp only [setChild, hother, Option.map_eq_some_iff] at hset
          rcases hset with ⟨grown, hgrown, rfl⟩
          by_cases hsame : otherIndex = index
          · subst hsame
            refine .inl ⟨by simp [meets, hindex, hother], ?_, ?_⟩
            · simpa [item?, hother] using hitem
            · simp [item?, hindex, getElem?_of_setItem hle hgrown]
          · right
            simp only [item?, hindex]
            exact getElem?_of_setItem_of_ne hle hsame hitem hgrown
  | _ => cases h

theorem opened_of_item? {slot inner : Json} {key : String} (other : String)
    (h : slot.item? key = some inner) :
    slot.opened other = none ∨ slot.opened other = some slot := by
  cases slot with
  | object members => exact .inr rfl
  | array items =>
      simp only [opened]
      cases (indexOfKey? other).isSome with
      | true => exact .inr rfl
      | false => exact .inl rfl
  | _ => cases h

/-!
## Whole paths
-/

/-- Neither path parts from the other: one leads to where the other leads, or on
from there. -/
def overlaps : List String → List String → Bool
  | [], _ => true
  | _, [] => true
  | key :: path, other :: otherPath =>
      meets key other && overlaps path otherPath

theorem store_of_not_opened {slot : Json} {key : String}
    (h : slot.opened key = none) (rest : List String) (value : Json) :
    slot.store (key :: rest) value = some (slot, false) := by
  rw [store, h]

theorem store_of_opened_eq_some_iff {slot container filled value : Json}
    {key : String} {rest : List String} {stored : Bool}
    (h : slot.opened key = some container) :
    slot.store (key :: rest) value = some (filled, stored) ↔ ∃ inner,
      (container.child key).store rest value = some (inner, stored) ∧
        container.setChild key inner = some filled := by
  simp only [store, h, Option.bind_eq_bind, Option.pure_def,
    Option.bind_eq_some_iff, Option.some.injEq, Prod.mk.injEq, Prod.exists]
  constructor
  · intro hsome
    rcases hsome with ⟨inner, found, hinner, set, hset, rfl, rfl⟩
    exact ⟨inner, hinner, hset⟩
  · intro hsome
    rcases hsome with ⟨inner, hinner, hset⟩
    exact ⟨inner, stored, hinner, filled, hset, rfl, rfl⟩

theorem store_cons_cases {slot filled value : Json} {key : String}
    {rest : List String} {stored : Bool}
    (h : slot.store (key :: rest) value = some (filled, stored)) :
    (slot.opened key = none ∧ filled = slot ∧ stored = false) ∨
      ∃ container inner, slot.opened key = some container ∧
        (container.child key).store rest value = some (inner, stored) ∧
          container.setChild key inner = some filled := by
  cases hopened : slot.opened key with
  | none =>
      rw [store_of_not_opened hopened] at h
      cases h
      exact .inl ⟨rfl, rfl, rfl⟩
  | some container =>
      rcases (store_of_opened_eq_some_iff hopened).mp h with
        ⟨inner, hinner, hset⟩
      exact .inr ⟨container, inner, rfl, hinner, hset⟩

theorem read_store {slot value filled : Json} {path : List String}
    (h : slot.store path value = some (filled, true)) :
    filled.read path = some value := by
  induction path generalizing slot filled with
  | nil =>
      cases h
      rfl
  | cons key rest ih =>
      rcases store_cons_cases h with
        ⟨_, _, hfalse⟩ | ⟨container, inner, hopened, hinner, hset⟩
      · cases hfalse
      · rw [read, item?_setChild hopened hset]
        exact ih hinner

/-- A store at another path leaves alone what is read, if the paths part. -/
theorem read_store_of_apart {slot old value filled : Json}
    {path other : List String} {stored : Bool}
    (hapart : overlaps path other = false) (h : slot.read path = some old)
    (hstore : slot.store other value = some (filled, stored)) :
    filled.read path = some old := by
  induction path generalizing slot other filled with
  | nil => cases hapart
  | cons key rest ih =>
      cases other with
      | nil => cases hapart
      | cons otherKey otherRest =>
          rcases Option.bind_eq_some_iff.mp h with ⟨inner, hitem, hread⟩
          rcases store_cons_cases hstore with
            ⟨_, rfl, _⟩ | ⟨container, below, hopened, hbelow, hset⟩
          · exact h
          · rcases opened_of_item? otherKey hitem with hnone | hsame
            · rw [hopened] at hnone
              cases hnone
            · cases hopened.symm.trans hsame
              rcases item?_setChild_other hitem hset with
                ⟨hmeets, hother, hkey⟩ | hkept
              · rw [child_eq, hother] at hbelow
                rw [overlaps, hmeets, Bool.true_and] at hapart
                rw [read, hkey]
                exact ih hapart hread hbelow
              · rw [read, hkept]
                exact hread

theorem meets_iff {key other : String} :
    meets key other = true ↔ key = other ∨ ∃ index,
      indexOfKey? key = some index ∧ indexOfKey? other = some index := by
  rw [meets, Bool.or_eq_true, decide_eq_true_iff, Bool.and_eq_true,
    decide_eq_true_iff, Option.isSome_iff_exists]
  constructor
  · rintro (hsame | ⟨⟨index, hkey⟩, hindices⟩)
    · exact .inl hsame
    · exact .inr ⟨index, hkey, hindices ▸ hkey⟩
  · rintro (hsame | ⟨index, hkey, hother⟩)
    · exact .inl hsame
    · exact .inr ⟨⟨index, hkey⟩, hkey.trans hother.symm⟩

/-- In a container that was made for one key, a key that meets it finds the same
place. -/
theorem opened_of_meets {container filled value : Json} {key other : String}
    (hmeets : meets key other = true) (h : null.opened key = some container)
    (hset : container.setChild key value = some filled) :
    filled.opened other = some filled ∧ filled.child other = value ∧
      ∀ {later after}, filled.setChild other later = some after →
        after.item? key = some later := by
  cases hkey : indexOfKey? key with
  | none =>
      have hsame : key = other := by
        rcases meets_iff.mp hmeets with hsame | ⟨index, hindex, _⟩
        · exact hsame
        · rw [hkey] at hindex
          cases hindex
      subst hsame
      simp only [opened, hkey, Option.isSome_none] at h
      cases h
      cases hset
      refine ⟨rfl, by simp [child], fun hlater => ?_⟩
      cases hlater
      simp [item?]
  | some index =>
      have hother : indexOfKey? other = some index := by
        rcases meets_iff.mp hmeets with hsame | ⟨_, hindex, hother⟩
        · rw [← hsame]
          exact hkey
        · rw [hkey] at hindex
          cases hindex
          exact hother
      have hle := indexOfKey?_le hkey
      simp only [opened, hkey, Option.isSome_some, if_true] at h
      cases h
      simp only [setChild, hkey, Option.map_eq_some_iff] at hset
      rcases hset with ⟨grown, hgrown, rfl⟩
      refine ⟨by simp [opened, hother], ?_, fun hlater => ?_⟩
      · simp [child, hother, getElem?_of_setItem hle hgrown]
      · simp only [setChild, hother, Option.map_eq_some_iff] at hlater
        rcases hlater with ⟨again, hagain, rfl⟩
        simp [item?, hkey, getElem?_of_setItem hle hagain]

theorem exists_opened_null (key : String) :
    ∃ container, null.opened key = some container ∧
      ∀ other, container.item? other = none := by
  cases hkey : indexOfKey? key with
  | none => exact ⟨object [], by simp [opened, hkey], fun other => rfl⟩
  | some index =>
      refine ⟨array [], by simp [opened, hkey], fun other => ?_⟩
      simp [item?]

theorem child_of_item?_none {container : Json} {key : String}
    (h : container.item? key = none) : container.child key = null := by
  rw [child_eq, h]
  rfl

theorem setChild_of_opened_null {key : String} {container : Json}
    (h : null.opened key = some container) (value : Json) :
    container.setChild key value = none ↔
      indexOfKey? key = some greatestIndex := by
  cases hindex : indexOfKey? key with
  | none =>
      simp only [opened, hindex, Option.isSome_none, Bool.false_eq_true,
        if_false, Option.some.injEq] at h
      subst h
      simp [setChild]
  | some index =>
      simp only [opened, hindex, Option.isSome_some, if_true,
        Option.some.injEq] at h
      subst h
      rcases Nat.lt_or_eq_of_le (indexOfKey?_le hindex) with hlt | rfl
      · simp [setChild, hindex, setItem_of_grows [] value hlt, Nat.ne_of_lt hlt]
      · have hempty : ([] : List Json).length ≤ greatestIndex := Nat.zero_le _
        simp [setChild, hindex, setItem_greatest value hempty]

/-- A store into nothing ends the run if a key of the path is the largest word,
and only then. -/
theorem store_null_eq_none_iff (path : List String) (value : Json) :
    null.store path value = none ↔
      ∃ key ∈ path, indexOfKey? key = some greatestIndex := by
  induction path with
  | nil => simp [store]
  | cons key rest ih =>
      rcases exists_opened_null key with ⟨container, hopened, hitem⟩
      have hchild := child_of_item?_none (hitem key)
      have hset := setChild_of_opened_null hopened
      simp only [store, hopened, hchild, List.exists_mem_cons_iff, ← ih]
      cases null.store rest value with
      | none => simp
      | some pair =>
          rw [← hset pair.1]
          cases hfilled : container.setChild key pair.1 <;> simp [hfilled]

theorem stored_of_store_null {path : List String} {value filled : Json}
    {stored : Bool} (h : null.store path value = some (filled, stored)) :
    stored = true := by
  induction path generalizing filled with
  | nil =>
      cases h
      rfl
  | cons key rest ih =>
      rcases exists_opened_null key with ⟨container, hopened, hitem⟩
      rcases (store_of_opened_eq_some_iff hopened).mp h with ⟨inner, hinner, _⟩
      rw [child_of_item?_none (hitem key)] at hinner
      exact ih hinner

def emptyText : Json :=
  .string "\x7b\x7d"

theorem opened_emptyText (key : String) :
    emptyText.opened key = some (object []) := by
  have hread : read? "\x7b\x7d" = some (object []) := by cbv
  simp [emptyText, opened, hread]

theorem read_store_store_ne {path other : List String} {first second : Json}
    {stored overwritten : Bool} (hoverlaps : overlaps path other = true)
    (hfirst : null.store path emptyText = some (first, stored))
    (hsecond : first.store other (.bool true) = some (second, overwritten)) :
    second.read path ≠ some emptyText := by
  induction path generalizing other first second with
  | nil =>
      cases hfirst
      intro h
      cases other with
      | nil =>
          cases hsecond
          cases h
      | cons key rest =>
          rcases (store_of_opened_eq_some_iff (opened_emptyText key)).mp
            hsecond with ⟨inner, _, hset⟩
          cases hset
          cases h
  | cons key rest ih =>
      rcases exists_opened_null key with ⟨container, hopened, hitem⟩
      rcases (store_of_opened_eq_some_iff hopened).mp hfirst with
        ⟨inner, hinner, hset⟩
      rw [child_of_item?_none (hitem key)] at hinner
      cases other with
      | nil =>
          cases hsecond
          intro h
          cases h
      | cons otherKey otherRest =>
          rw [overlaps, Bool.and_eq_true] at hoverlaps
          rcases hoverlaps with ⟨hmeets, hrest⟩
          rcases opened_of_meets hmeets hopened hset with
            ⟨hother, hchild, hitem⟩
          rcases (store_of_opened_eq_some_iff hother).mp hsecond with
            ⟨below, hbelow, hset⟩
          rw [hchild] at hbelow
          rw [read, hitem hset]
          exact ih hrest hinner hbelow

end Json
end SqlAssembler
