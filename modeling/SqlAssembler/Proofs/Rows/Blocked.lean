import SqlAssembler.Proofs.Rows.Moving
import SqlAssembler.Proofs.Rows.Placements

/-!
# Moves that are blocked

A value whose way is blocked stays under its flat key, and its row should stay
as it is. Nothing is created on a way that is blocked further on, because
nothing blocks the way below a null; so no array grows, and the move comes to an
end whatever the indices are. But a text on the way is opened before it is known
whether the way goes on, and it is not closed again. So the row stays as it is
if and only if no text was opened.
-/

namespace SqlAssembler
namespace Json

def isText : Json → Bool
  | string _ => true
  | _ => false

/-- Whether a value that stands on the way along a path cannot be opened. -/
def obstructs : Json → List String → Bool
  | _, [] => false
  | slot, key :: rest =>
      match slot.opened key with
      | none => true
      | some container => (container.child key).obstructs rest

/-- Whether a text stands on the way along a path and can be opened. -/
def opensText : Json → List String → Bool
  | _, [] => false
  | slot, key :: rest =>
      match slot.opened key with
      | none => false
      | some container =>
          slot.isText || (container.child key).opensText rest

/-- The value with the texts on the way along a path opened, as far as there is
a way. -/
def unpacked : Json → List String → Json
  | slot, [] => slot
  | slot, key :: rest =>
      match slot.opened key with
      | none => slot
      | some container =>
          match container.item? key with
          | none => container
          | some inner =>
              (container.setChild key (unpacked inner rest)).getD container

variable {slot container inner value filled : Json} {key : String}

theorem exists_setChild_of_item? (h : container.item? key = some inner)
    (value : Json) : ∃ filled, container.setChild key value = some filled := by
  cases container with
  | array items =>
      rcases Option.bind_eq_some_iff.mp h with ⟨index, hindex, hitem⟩
      rcases List.getElem?_eq_some_iff.mp hitem with ⟨hlt, _⟩
      refine ⟨array (items.set index value), ?_⟩
      simp only [setChild, hindex, setItem_of_lt value hlt, Option.map_some]
  | _ => exact ⟨_, rfl⟩

theorem setChild_item? (h : container.item? key = some inner) :
    container.setChild key inner = some container := by
  cases container with
  | object members =>
      exact congrArg (some ∘ object) (Members.set_of_get? h)
  | array items =>
      rcases Option.bind_eq_some_iff.mp h with ⟨index, hindex, hitem⟩
      rcases List.getElem?_eq_some_iff.mp hitem with ⟨hlt, hget⟩
      simp only [setChild, hindex, setItem_of_lt inner hlt, Option.map_some]
      rw [← hget, List.set_getElem_self]
  | _ => cases h

theorem isText_of_item? (h : slot.item? key = some inner) :
    slot.isText = false := by
  cases slot with
  | string raw => cases h
  | _ => rfl

theorem obstructs_null (path : List String) :
    null.obstructs path = false := by
  induction path with
  | nil => rfl
  | cons key rest ih =>
      rcases exists_opened_null key with ⟨container, hopened, hitem⟩
      simp only [obstructs, hopened, child_of_item?_none (hitem key), ih]

theorem item?_of_obstructs {rest : List String}
    (h : (container.child key).obstructs rest = true) :
    container.item? key = some (container.child key) := by
  cases hitem : container.item? key with
  | some inner =>
      rw [child_eq, hitem]
      rfl
  | none =>
      rw [child_of_item?_none hitem, obstructs_null] at h
      cases h

theorem opened_eq_self (h : slot.opened key = some container)
    (htext : slot.isText = false) (hnull : slot ≠ null) : container = slot := by
  cases slot with
  | object members =>
      cases h
      rfl
  | array items =>
      simp only [opened] at h
      split at h <;> cases h
      rfl
  | null => exact absurd rfl hnull
  | string raw => cases htext
  | _ => cases h

/-- Where the way is blocked, a store opens what it can and stores nothing. -/
theorem store_of_obstructs {path : List String} (value : Json)
    (h : slot.obstructs path = true) :
    slot.store path value = some (slot.unpacked path, false) := by
  induction path generalizing slot with
  | nil => cases h
  | cons key rest ih =>
      cases hopened : slot.opened key with
      | none => simp only [store, unpacked, hopened]
      | some container =>
          simp only [obstructs, hopened] at h
          have hitem := item?_of_obstructs h
          rcases exists_setChild_of_item? hitem
            ((container.child key).unpacked rest) with ⟨after, hafter⟩
          simp only [store, unpacked, hopened, hitem, ih h, hafter,
            Option.bind_eq_bind, Option.bind_some, Option.pure_def,
            Option.getD_some]

theorem obstructs_of_store {path : List String}
    (h : slot.store path value = some (filled, false)) :
    slot.obstructs path = true := by
  induction path generalizing slot filled with
  | nil => cases h
  | cons key rest ih =>
      rcases store_cons_cases h with
        ⟨hopened, _, _⟩ | ⟨container, below, hopened, hbelow, _⟩
      · rw [obstructs, hopened]
      · rw [obstructs, hopened]
        exact ih hbelow

theorem unpacked_eq_self_iff {path : List String}
    (h : slot.obstructs path = true) :
    slot.unpacked path = slot ↔ slot.opensText path = false := by
  induction path generalizing slot with
  | nil => cases h
  | cons key rest ih =>
      have hslot : slot ≠ null := by
        intro hnull
        rw [hnull, obstructs_null] at h
        cases h
      cases hopened : slot.opened key with
      | none => simp [unpacked, opensText, hopened]
      | some container =>
          simp only [obstructs, hopened] at h
          have hitem := item?_of_obstructs h
          rcases exists_setChild_of_item? hitem
            ((container.child key).unpacked rest) with ⟨after, hafter⟩
          have hread := item?_setChild hopened hafter
          simp only [unpacked, opensText, hopened, hitem, hafter,
            Option.getD_some]
          cases htext : slot.isText with
          | true =>
              -- a container has taken the place of the text
              simp only [Bool.true_or, Bool.true_eq_false, iff_false]
              intro hsame
              rw [hsame] at hread
              rw [isText_of_item? hread] at htext
              cases htext
          | false =>
              have hsame := opened_eq_self hopened htext hslot
              subst hsame
              rw [Bool.false_or, ← ih h]
              constructor
              · intro hset
                rw [hset, hitem] at hread
                exact (Option.some.inj hread).symm
              · intro hinner
                rw [hinner, setChild_item? hitem] at hafter
                exact (Option.some.inj hafter).symm

end Json

/-!
## Rows
-/

namespace Placement

variable {placement : Placement} {row result : Row} {value : Json}

theorem move_of_obstructs (h : row.get? placement.flat = some value)
    (hway : (placement.slot row).obstructs placement.path = true) :
    placement.move row = some (row.set placement.column
      ((placement.slot row).unpacked placement.path)) :=
  (move_eq_some_iff h).mpr ⟨_, false, Json.store_of_obstructs value hway, rfl⟩

theorem obstructs_of_stays (hrow : row.keys.Nodup)
    (h : row.get? placement.flat = some value)
    (hmove : placement.move row = some result)
    (hstays : result.get? placement.flat ≠ none) :
    (placement.slot row).obstructs placement.path = true := by
  rcases (move_eq_some_iff h).mp hmove with ⟨filled, stored, hstore, rfl⟩
  cases stored with
  | false => exact Json.obstructs_of_store hstore
  | true =>
      rw [if_pos rfl] at hstays
      exact absurd (Members.get?_erase_self (Members.nodup_keys_set hrow _ _) _)
        hstays

theorem get?_column_of_obstructs
    (hway : (placement.slot row).obstructs placement.path = true) :
    row.get? placement.column = some (placement.slot row) := by
  rw [slot] at hway ⊢
  cases hcolumn : row.get? placement.column with
  | some slot => rfl
  | none =>
      rw [hcolumn, Option.getD_none, Json.obstructs_null] at hway
      cases hway

theorem set_unpacked_eq_self_iff
    (hway : (placement.slot row).obstructs placement.path = true) :
    row.set placement.column ((placement.slot row).unpacked placement.path) =
        row ↔
      (placement.slot row).opensText placement.path = false := by
  have hcolumn := get?_column_of_obstructs hway
  rw [← Json.unpacked_eq_self_iff hway]
  constructor
  · intro hsame
    have hget := Members.get?_set row placement.column placement.column
      ((placement.slot row).unpacked placement.path)
    rw [hsame, hcolumn, if_pos rfl] at hget
    exact (Option.some.inj hget).symm
  · intro hsame
    rw [hsame]
    exact Members.set_of_get? hcolumn

end Placement

namespace Nesting

/-- A value stays under its flat key if and only if something is in its way.
Then the move always comes to an end, and the rest of the row stays too, but for
the texts in its column that the way goes through, which are opened; so the row
is the same as before if and only if there are none. -/
theorem blocked_move_eq_self_iff (column : Column) (placement : Placement)
    (row : Row) (value : Json)
    (hplacement : placement? column = some placement)
    (hrow : row.keys.Nodup) (h : row.get? placement.flat = some value) :
    (∀ result, placement.move row = some result →
      (result.get? placement.flat ≠ none ↔
        (placement.slot row).obstructs placement.path = true)) ∧
    ((placement.slot row).obstructs placement.path = true →
      ∃ result, placement.move row = some result ∧
        result.get? placement.flat = some value ∧
        result = row.set placement.column
          ((placement.slot row).unpacked placement.path) ∧
        (result = row ↔
          (placement.slot row).opensText placement.path = false)) := by
  have hne : placement.column ≠ placement.flat := by
    intro hsame
    have hlonger := length_column_lt hplacement
    rw [hsame] at hlonger
    exact Nat.lt_irrefl _ hlonger
  have hkept : ∀ slot, Members.get? (row.set placement.column slot)
      placement.flat = some value := by
    intro slot
    rw [Members.get?_set, if_neg hne, h]
  constructor
  · intro result hmove
    constructor
    · exact Placement.obstructs_of_stays hrow h hmove
    · intro hway
      rw [Placement.move_of_obstructs h hway] at hmove
      cases hmove
      rw [hkept]
      exact Option.some_ne_none value
  · intro hway
    exact ⟨_, Placement.move_of_obstructs h hway, hkept _, rfl,
      Placement.set_unpacked_eq_self_iff hway⟩

def deepColumn : Column :=
  .json ⟨[⟨"t", false⟩, ⟨"a", false⟩]⟩ ["b", "c"] none

def deepPlacement : Placement :=
  ⟨"a_b_c", "a", ["b", "c"]⟩

theorem blocked_move_of_object :
    placement? deepColumn = some deepPlacement ∧
    (deepPlacement.slot
      [("a", .object [("b", .int 1)]), ("a_b_c", .int 2)]).obstructs
        deepPlacement.path = true ∧
    deepPlacement.move [("a", .object [("b", .int 1)]), ("a_b_c", .int 2)] =
      some [("a", .object [("b", .int 1)]), ("a_b_c", .int 2)] := by
  have hplacement : placement? deepColumn = some deepPlacement := by cbv
  have hway : (deepPlacement.slot
      [("a", .object [("b", .int 1)]), ("a_b_c", .int 2)]).obstructs
        deepPlacement.path = true := by cbv
  have htext : (deepPlacement.slot
      [("a", .object [("b", .int 1)]), ("a_b_c", .int 2)]).opensText
        deepPlacement.path = false := by cbv
  rcases (blocked_move_eq_self_iff deepColumn deepPlacement
    [("a", .object [("b", .int 1)]), ("a_b_c", .int 2)] (.int 2) hplacement
    (by decide) rfl).2 hway with ⟨result, hmove, _, _, hsame⟩
  refine ⟨hplacement, hway, ?_⟩
  rw [hmove, hsame.mpr htext]

/-- The text in the column is opened, and only then it turns out that `b` holds
a number. The value stays where it is, and the text is a container now. -/
theorem blocked_move_opens_text :
    placement? deepColumn = some deepPlacement ∧
    deepPlacement.move
        [("a", .string "\x7b\"b\":1\x7d"), ("a_b_c", .int 2)] =
      some [("a", .object [("b", .int 1)]), ("a_b_c", .int 2)] ∧
    deepPlacement.move
        [("a", .string "\x7b\"b\":1\x7d"), ("a_b_c", .int 2)] ≠
      some [("a", .string "\x7b\"b\":1\x7d"), ("a_b_c", .int 2)] := by
  have hmove : deepPlacement.move
      [("a", .string "\x7b\"b\":1\x7d"), ("a_b_c", .int 2)] =
        some [("a", .object [("b", .int 1)]), ("a_b_c", .int 2)] := by cbv
  refine ⟨by cbv, hmove, ?_⟩
  rw [hmove]
  intro h
  cases h

end Nesting
end SqlAssembler
