import SqlAssembler.Builder.Recording

/-!
# Recordings that simulate each other

If each edit of one kind of parts does what an edit of another kind does, seen
through a function, whole recordings agree in the same way: they refuse the same
edits and leave the same error.
-/

namespace SqlAssembler
namespace Recording

variable {σ τ κ : Type} {f : σ → τ}

def map (f : σ → τ) (recording : Recording σ) : Recording τ :=
  ⟨f recording.parts, recording.failure⟩

theorem eq_start_of_accepted {recording : Recording σ}
    (h : recording.failure = none) : recording = start recording.parts := by
  cases recording
  cases h
  rfl

def Simulates (f : σ → τ) (edits : List (Edit σ)) (others : List (Edit τ)) :
    Prop :=
  ∀ recording : Recording σ,
    (recording.map f).attemptAll others = (recording.attemptAll edits).map f

theorem simulates_nil : Simulates f [] [] :=
  fun _ => rfl

theorem Simulates.append {edits laterEdits : List (Edit σ)}
    {others laterOthers : List (Edit τ)} (hfirst : Simulates f edits others)
    (hlater : Simulates f laterEdits laterOthers) :
    Simulates f (edits ++ laterEdits) (others ++ laterOthers) := by
  intro recording
  rw [attemptAll_append, attemptAll_append, hfirst, hlater]

theorem simulates_single {edit : Edit σ} {other : Edit τ}
    (h : ∀ parts, other (f parts) = (edit parts).map f) :
    Simulates f [edit] [other] := by
  intro recording
  show (recording.map f).attempt other = (recording.attempt edit).map f
  cases hedit : edit recording.parts with
  | error error =>
      rw [attempt_of_error hedit, attempt_of_error (by rw [map, h, hedit]; rfl)]
      rfl
  | ok parts =>
      rw [attempt_of_ok hedit, attempt_of_ok (by rw [map, h, hedit]; rfl)]
      rfl

theorem simulates_flatMap {edits : κ → List (Edit σ)}
    {others : κ → List (Edit τ)}
    (h : ∀ call, Simulates f (edits call) (others call)) (calls : List κ) :
    Simulates f (calls.flatMap edits) (calls.flatMap others) := by
  induction calls with
  | nil => exact simulates_nil
  | cons call rest ih => exact (h call).append ih

theorem simulates_map {edit : κ → Edit σ} {other : κ → Edit τ}
    (h : ∀ call parts, other call (f parts) = (edit call parts).map f)
    (calls : List κ) : Simulates f (calls.map edit) (calls.map other) := by
  induction calls with
  | nil => exact simulates_nil
  | cons call rest ih => exact (simulates_single (h call)).append ih

theorem checked_map (recording : Recording σ) :
    (recording.map f).checked = recording.checked.map f := by
  rw [checked, checked, map]
  cases recording.failure <;> rfl

end Recording
end SqlAssembler
