/-!
# Results that may be errors

A result that was computed in steps is a value only if every step gave one.
-/

namespace SqlAssembler

theorem bind_eq_ok_iff {ε α β : Type} {x : Except ε α} {f : α → Except ε β}
    {b : β} : x >>= f = .ok b ↔ ∃ a, x = .ok a ∧ f a = .ok b := by
  constructor
  · intro h
    cases x with
    | error e => cases h
    | ok a => exact ⟨a, rfl, h⟩
  · rintro ⟨a, rfl, h⟩
    exact h

theorem map_eq_ok_iff {ε α β : Type} {x : Except ε α} {f : α → β} {b : β} :
    x.map f = .ok b ↔ ∃ a, x = .ok a ∧ b = f a := by
  constructor
  · intro h
    cases x with
    | error e => cases h
    | ok a =>
        cases h
        exact ⟨a, rfl, rfl⟩
  · rintro ⟨a, rfl, rfl⟩
    rfl

theorem map_eq_error_iff {ε α β : Type} {x : Except ε α} {f : α → β} {e : ε} :
    x.map f = .error e ↔ x = .error e := by
  cases x with
  | error other => simp [Except.map]
  | ok a => simp [Except.map]

theorem mapError_eq_ok_iff {ε φ α : Type} {x : Except ε α} {f : ε → φ} {a : α} :
    x.mapError f = .ok a ↔ x = .ok a := by
  constructor
  · intro h
    cases x with
    | error e => cases h
    | ok b =>
        cases h
        rfl
  · rintro rfl
    rfl

theorem map_map_eq {ε α β γ δ : Type} {x : Except ε α} {f : α → β} {g : β → γ}
    {f' : α → δ} {g' : δ → γ} (h : ∀ a, g (f a) = g' (f' a)) :
    (x.map f).map g = (x.map f').map g' := by
  cases x with
  | error e => rfl
  | ok a => exact congrArg Except.ok (h a)

theorem mapM_eq_ok_iff {ε α β : Type} {xs : List α} {f : α → Except ε β}
    {ys : List β} : xs.mapM f = .ok ys ↔ xs.map f = ys.map Except.ok := by
  induction xs generalizing ys with
  | nil =>
      cases ys with
      | nil => exact ⟨fun _ => rfl, fun _ => rfl⟩
      | cons y ys =>
          constructor
          · intro h
            cases h
          · intro h
            cases h
  | cons x xs ih =>
      rw [List.mapM_cons, bind_eq_ok_iff]
      constructor
      · rintro ⟨y, hy, hrest⟩
        rcases bind_eq_ok_iff.mp hrest with ⟨others, hothers, hpure⟩
        cases hpure
        rw [List.map_cons, List.map_cons, hy, ih.mp hothers]
      · intro h
        rcases List.map_eq_cons_iff.mp h.symm with
          ⟨y, others, rfl, hy, hothers⟩
        refine ⟨y, hy.symm, bind_eq_ok_iff.mpr ⟨others, ?_, rfl⟩⟩
        exact ih.mpr hothers.symm

end SqlAssembler
