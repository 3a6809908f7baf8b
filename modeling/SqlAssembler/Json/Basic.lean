/-!
# JSON values

Rows and the values in them are JSON. The members of an object are kept in the
order in which they were first written, because that order shows in results; a
name occurs once. Whole numbers that fit 64 bits are kept apart from binary64
numbers.
-/

namespace SqlAssembler

inductive Json where
  | null
  | bool (value : Bool)
  | int (value : Int)
  | float (value : Float)
  | string (value : String)
  | array (items : List Json)
  | object (members : List (String × Json))
  deriving Inhabited

abbrev Members := List (String × Json)

namespace Members

/-!
## Members in order

Setting a member that is already there replaces its value where it stands; a new
member goes to the end. Erasing a member leaves the order of the others.
-/

def get? : Members → String → Option Json
  | [], _ => none
  | (key, value) :: rest, name =>
      if key = name then some value else get? rest name

def set : Members → String → Json → Members
  | [], name, value => [(name, value)]
  | (key, old) :: rest, name, value =>
      if key = name then (key, value) :: rest
      else (key, old) :: set rest name value

def erase : Members → String → Members
  | [], _ => []
  | (key, value) :: rest, name =>
      if key = name then rest else (key, value) :: erase rest name

def ofList (written : List (String × Json)) : Members :=
  written.foldl (fun members (key, value) => members.set key value) []

def keys (members : Members) : List String :=
  members.map Prod.fst

@[simp]
theorem get?_set (members : Members) (name other : String) (value : Json) :
    (members.set name value).get? other =
      if name = other then some value else members.get? other := by
  induction members with
  | nil => simp [set, get?]
  | cons head rest ih =>
      obtain ⟨key, old⟩ := head
      by_cases hkey : key = name <;> by_cases hother : key = other <;>
        grind [set, get?]

theorem get?_erase_of_ne (members : Members) {name other : String}
    (h : name ≠ other) :
    (members.erase name).get? other = members.get? other := by
  induction members with
  | nil => rfl
  | cons head rest ih =>
      obtain ⟨key, old⟩ := head
      by_cases hkey : key = name <;> grind [erase, get?]

theorem get?_eq_none_iff (members : Members) (name : String) :
    members.get? name = none ↔ name ∉ members.keys := by
  induction members with
  | nil => simp [get?, keys]
  | cons head rest ih =>
      obtain ⟨key, value⟩ := head
      by_cases hkey : key = name <;> grind [get?, keys]

theorem get?_erase_self {members : Members} (h : members.keys.Nodup)
    (name : String) : (members.erase name).get? name = none := by
  induction members with
  | nil => rfl
  | cons head rest ih =>
      obtain ⟨key, value⟩ := head
      obtain ⟨hfresh, hrest⟩ := List.nodup_cons.mp h
      by_cases hkey : key = name
      · subst hkey
        rw [erase, if_pos rfl, get?_eq_none_iff]
        exact hfresh
      · rw [erase, if_neg hkey, get?, if_neg hkey]
        exact ih hrest

theorem set_of_get? {members : Members} {name : String} {value : Json}
    (h : members.get? name = some value) :
    members.set name value = members := by
  induction members with
  | nil => cases h
  | cons head rest ih =>
      obtain ⟨key, old⟩ := head
      by_cases hkey : key = name <;> grind [set, get?]

theorem mem_keys_set (members : Members) (name other : String)
    (value : Json) :
    other ∈ (members.set name value).keys ↔
      other = name ∨ other ∈ members.keys := by
  induction members with
  | nil => simp [set, keys]
  | cons head rest ih =>
      obtain ⟨key, old⟩ := head
      by_cases hkey : key = name <;> grind [set, keys]

theorem nodup_keys_set {members : Members} (h : members.keys.Nodup)
    (name : String) (value : Json) : (members.set name value).keys.Nodup := by
  induction members with
  | nil => simp [set, keys]
  | cons head rest ih =>
      obtain ⟨key, old⟩ := head
      obtain ⟨hfresh, hrest⟩ := List.nodup_cons.mp h
      by_cases hkey : key = name
      · simpa [set, hkey, keys] using h
      · rw [set, if_neg hkey]
        refine List.nodup_cons.mpr ⟨?_, ih hrest⟩
        intro hmem
        rcases (mem_keys_set rest name key value).mp hmem with hsame | hold
        · exact hkey hsame
        · exact hfresh hold

theorem nodup_keys_erase {members : Members} (h : members.keys.Nodup)
    (name : String) : (members.erase name).keys.Nodup := by
  have hsublist : (members.erase name).keys.Sublist members.keys := by
    clear h
    induction members with
    | nil => exact List.Sublist.slnil
    | cons head rest ih =>
        obtain ⟨key, value⟩ := head
        by_cases hkey : key = name
        · rw [erase, if_pos hkey]
          exact List.sublist_cons_self key (keys rest)
        · rw [erase, if_neg hkey]
          exact ih.cons_cons key
  exact h.sublist hsublist

end Members
end SqlAssembler
