import SqlAssembler.Proofs.Rows.Labels

/-!
# What nesting leaves alone

Nesting takes values away from flat keys and stores them in columns. All other
members of a row stay as they are and keep their order, and no key is added but
a column. A row without flat keys does not change at all.
-/

namespace SqlAssembler

/-!
## Members that are not concerned
-/

namespace Members

variable {members : Members} {name : String} {p : String × Json → Bool}

theorem filter_set (hp : ∀ value, p (name, value) = false) (value : Json) :
    (members.set name value).filter p = members.filter p := by
  induction members with
  | nil => simp [set, hp]
  | cons head rest ih =>
      obtain ⟨key, old⟩ := head
      by_cases hkey : key = name
      · rw [set, if_pos hkey, hkey]
        simp [hp]
      · rw [set, if_neg hkey, List.filter_cons, List.filter_cons, ih]

theorem filter_erase (hp : ∀ value, p (name, value) = false) :
    (members.erase name).filter p = members.filter p := by
  induction members with
  | nil => rfl
  | cons head rest ih =>
      obtain ⟨key, value⟩ := head
      by_cases hkey : key = name
      · rw [erase, if_pos hkey, hkey]
        simp [hp]
      · rw [erase, if_neg hkey, List.filter_cons, List.filter_cons, ih]

theorem mem_keys_of_mem_erase {key : String}
    (h : key ∈ (members.erase name).keys) : key ∈ members.keys := by
  induction members with
  | nil => exact h
  | cons head rest ih =>
      obtain ⟨first, value⟩ := head
      by_cases hfirst : first = name
      · rw [erase, if_pos hfirst] at h
        exact List.mem_cons_of_mem first h
      · rw [erase, if_neg hfirst] at h
        rcases List.mem_cons.mp h with hsame | hrest
        · exact List.mem_cons.mpr (.inl hsame)
        · exact List.mem_cons_of_mem first (ih hrest)

end Members

/-!
## One move
-/

namespace Placement

variable {placement : Placement} {row result : Row}

theorem move_cases (hmove : placement.move row = some result) :
    result = row ∨ ∃ filled,
      result = row.set placement.column filled ∨
        result = (row.set placement.column filled).erase placement.flat := by
  cases hflat : row.get? placement.flat with
  | none =>
      rw [move_of_absent hflat] at hmove
      cases hmove
      exact .inl rfl
  | some value =>
      rcases (move_eq_some_iff hflat).mp hmove with ⟨filled, stored, _, rfl⟩
      cases stored with
      | false => exact .inr ⟨filled, .inl rfl⟩
      | true => exact .inr ⟨filled, .inr rfl⟩

theorem filter_of_move {p : String × Json → Bool}
    (hflat : ∀ value, p (placement.flat, value) = false)
    (hcolumn : ∀ value, p (placement.column, value) = false)
    (hmove : placement.move row = some result) :
    result.filter p = row.filter p := by
  rcases move_cases hmove with rfl | ⟨filled, rfl | rfl⟩
  · rfl
  · rw [Members.filter_set hcolumn]
  · rw [Members.filter_erase hflat, Members.filter_set hcolumn]

theorem mem_keys_of_mem_move {key : String}
    (hmove : placement.move row = some result) (h : key ∈ result.keys) :
    key = placement.column ∨ key ∈ row.keys := by
  rcases move_cases hmove with rfl | ⟨filled, rfl | rfl⟩
  · exact .inr h
  · exact (Members.mem_keys_set row _ key filled).mp h
  · exact (Members.mem_keys_set row _ key filled).mp
      (Members.mem_keys_of_mem_erase h)

end Placement

/-!
## Rows of a projection
-/

namespace Nesting

def flatKeys (columns : List Column) : List String :=
  columns.filterMap fun
    | .json base path none => (Column.json base path none).resultKey
    | _ => none

def baseNames (columns : List Column) : List String :=
  columns.filterMap fun
    | .json base _ none => some base.name
    | _ => none

def isOther (columns : List Column) (member : String × Json) : Bool :=
  member.1 ∉ flatKeys columns ∧ member.1 ∉ baseNames columns

variable {columns : List Column} {row result : Row}

theorem flatKeys_eq (columns : List Column) :
    flatKeys columns = (ofColumns columns).placements.map Placement.flat := by
  rw [ofColumns, List.map_filterMap, flatKeys]
  congr 1
  funext column
  cases column with
  | json base path label => cases label <;> rfl
  | _ => rfl

theorem baseNames_eq (columns : List Column) :
    baseNames columns =
      (ofColumns columns).placements.map Placement.column := by
  rw [ofColumns, List.map_filterMap, baseNames]
  congr 1
  funext column
  cases column with
  | json base path label => cases label <;> rfl
  | _ => rfl

theorem flat_mem_flatKeys {placement : Placement}
    (h : placement ∈ (ofColumns columns).placements) :
    placement.flat ∈ flatKeys columns := by
  rw [flatKeys_eq]
  exact List.mem_map_of_mem h

theorem column_mem_baseNames {placement : Placement}
    (h : placement ∈ (ofColumns columns).placements) :
    placement.column ∈ baseNames columns := by
  rw [baseNames_eq]
  exact List.mem_map_of_mem h

theorem filter_of_apply (h : (ofColumns columns).apply row = some result) :
    result.filter (isOther columns) = row.filter (isOther columns) := by
  refine moveAll_keeps (P := fun after : Row =>
    after.filter (isOther columns) = row.filter (isOther columns)) ?_ h rfl
  intro placement hplacement before after hmove hbefore
  rw [Placement.filter_of_move ?_ ?_ hmove, hbefore]
  · intro value
    simp [isOther, flat_mem_flatKeys hplacement]
  · intro value
    simp [isOther, column_mem_baseNames hplacement]

theorem mem_keys_of_mem_apply {key : String}
    (h : (ofColumns columns).apply row = some result)
    (hkey : key ∈ result.keys) : key ∈ row.keys ∨ key ∈ baseNames columns := by
  refine moveAll_keeps (P := fun after : Row =>
    ∀ key ∈ after.keys, key ∈ row.keys ∨ key ∈ baseNames columns)
      ?_ h (fun key hkey => .inl hkey) key hkey
  intro placement hplacement before after hmove hbefore key hkey
  rcases Placement.mem_keys_of_mem_move hmove hkey with rfl | hold
  · exact .inr (column_mem_baseNames hplacement)
  · exact hbefore key hold

theorem apply_of_no_flatKey
    (h : ∀ key ∈ flatKeys columns, row.get? key = none) :
    (ofColumns columns).apply row = some row :=
  moveAll_of_absent fun _ hplacement => h _ (flat_mem_flatKeys hplacement)

theorem length_of_applyAll {nesting : Nesting} {rows results : List Row}
    (h : nesting.applyAll rows = some results) :
    results.length = rows.length := by
  have hlength := congrArg List.length (applyAll_eq_some_iff.mp h)
  rw [List.length_map, List.length_map] at hlength
  exact hlength.symm

theorem getElem?_of_applyAll {nesting : Nesting} {rows results : List Row}
    (h : nesting.applyAll rows = some results) (i : Nat) :
    results[i]?.map some = rows[i]?.map nesting.apply := by
  rw [← List.getElem?_map, ← List.getElem?_map, applyAll_eq_some_iff.mp h]

/-- Only flat keys and the columns they belong to are concerned: the rest of a
row keeps its values and its order, the only new keys are such columns, and a
row without flat keys stays the same. Of several rows each is nested by itself.
No row is refused, as long as no index is too large. -/
theorem apply_keeps_others (columns : List Column) (row : Row)
    (rows : List Row) :
    (∀ result, (ofColumns columns).apply row = some result →
      (∀ key ∈ row.keys, key ∉ flatKeys columns → key ∉ baseNames columns →
        result.get? key = row.get? key) ∧
      result.filter (isOther columns) = row.filter (isOther columns) ∧
      ∀ key ∈ result.keys, key ∈ row.keys ∨ key ∈ baseNames columns) ∧
    ((∀ key ∈ flatKeys columns, key ∉ row.keys) →
      (ofColumns columns).apply row = some row) ∧
    (∀ results, (ofColumns columns).applyAll rows = some results →
      results.length = rows.length ∧
      ∀ i : Nat, results[i]?.map some =
        rows[i]?.map (ofColumns columns).apply) ∧
    ((ofColumns columns).Bounded →
      (∃ result, (ofColumns columns).apply row = some result) ∧
      ∃ results, (ofColumns columns).applyAll rows = some results) := by
  refine ⟨?_, ?_, ?_, ?_⟩
  · intro result hresult
    refine ⟨?_, filter_of_apply hresult,
      fun key => mem_keys_of_mem_apply hresult⟩
    intro key _ hflat hbase
    refine get?_of_apply_other ?_ ?_ hresult
    · intro placement hplacement hsame
      exact hflat (hsame ▸ flat_mem_flatKeys hplacement)
    · intro placement hplacement hsame
      exact hbase (hsame ▸ column_mem_baseNames hplacement)
  · intro habsent
    refine apply_of_no_flatKey fun key hkey => ?_
    exact (Members.get?_eq_none_iff row key).mpr (habsent key hkey)
  · intro results hresults
    exact ⟨length_of_applyAll hresults, getElem?_of_applyAll hresults⟩
  · intro hbounded
    exact ⟨exists_apply hbounded row, exists_applyAll hbounded rows⟩

def contactColumns : List Column :=
  [.json ⟨[⟨"supplier", false⟩]⟩ ["email"] none,
    .plain ⟨[⟨"name", false⟩]⟩ none]

def contactRow : Row :=
  [("id", .int 7), ("supplier_email", .string "e"), ("name", .string "W")]

/-- The column comes last, and the two members around the flat key stay. -/
theorem apply_keeps_others_of_contact :
    "name" ∈ contactRow.keys ∧ "name" ∉ flatKeys contactColumns ∧
    "name" ∉ baseNames contactColumns ∧
    (ofColumns contactColumns).Bounded ∧
    ∃ result, (ofColumns contactColumns).apply contactRow = some result ∧
      result.get? "name" = some (.string "W") ∧
      result.filter (isOther contactColumns) =
        [("id", .int 7), ("name", .string "W")] ∧
      result = [("id", .int 7), ("name", .string "W"),
        ("supplier", .object [("email", .string "e")])] := by
  have hrow : "name" ∈ contactRow.keys := by decide
  have hflat : "name" ∉ flatKeys contactColumns := by decide
  have hbase : "name" ∉ baseNames contactColumns := by decide
  have hbounded : (ofColumns contactColumns).Bounded := by
    rw [Bounded]
    decide
  rcases apply_keeps_others contactColumns contactRow [] with
    ⟨hkeeps, _, _, hexists⟩
  rcases (hexists hbounded).1 with ⟨result, hresult⟩
  rcases hkeeps result hresult with ⟨hkept, hothers, _⟩
  refine ⟨hrow, hflat, hbase, hbounded, result, hresult, ?_, ?_, ?_⟩
  · exact (hkept "name" hrow hflat hbase).trans rfl
  · exact hothers.trans rfl
  · have happly : (ofColumns contactColumns).apply contactRow =
        some [("id", .int 7), ("name", .string "W"),
          ("supplier", .object [("email", .string "e")])] := by cbv
    exact Option.some.inj (hresult.symm.trans happly)

end Nesting
end SqlAssembler
