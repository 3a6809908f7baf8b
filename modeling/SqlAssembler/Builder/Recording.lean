import SqlAssembler.Error
import SqlAssembler.Settings

/-!
# Recording calls

A builder collects the parts of a statement call by call. A call that is refused
changes nothing but leaves its error behind if it is the first one; later calls
go on from the parts that were recorded before. The first error is what the
builder answers in place of a statement.
-/

namespace SqlAssembler

/-- What one call, or one entry of a call that takes several, does to the parts.
-/
abbrev Edit (σ : Type) := σ → Except Error σ

structure Recording (σ : Type) where
  parts : σ
  failure : Option Error

namespace Recording

variable {σ : Type}

def start (parts : σ) : Recording σ :=
  ⟨parts, none⟩

def attempt (recording : Recording σ) (edit : Edit σ) : Recording σ :=
  match edit recording.parts with
  | .ok parts => { recording with parts }
  | .error error =>
      { recording with failure := recording.failure.or (some error) }

def attemptAll (recording : Recording σ) (edits : List (Edit σ)) :
    Recording σ :=
  edits.foldl attempt recording

def checked (recording : Recording σ) : Except Error σ :=
  match recording.failure with
  | some error => .error error
  | none => .ok recording.parts

theorem checked_eq_ok_iff {recording : Recording σ} {parts : σ} :
    recording.checked = .ok parts ↔
      recording.failure = none ∧ recording.parts = parts := by
  rcases recording with ⟨recorded, failure⟩
  cases failure <;> simp [checked]

theorem attemptAll_append (recording : Recording σ)
    (edits others : List (Edit σ)) :
    recording.attemptAll (edits ++ others) =
      (recording.attemptAll edits).attemptAll others :=
  List.foldl_append

theorem attempt_of_ok {recording : Recording σ} {edit : Edit σ} {parts : σ}
    (h : edit recording.parts = .ok parts) :
    recording.attempt edit = ⟨parts, recording.failure⟩ := by
  simp [attempt, h]

theorem attempt_of_error {recording : Recording σ} {edit : Edit σ}
    {error : Error} (h : edit recording.parts = .error error) :
    recording.attempt edit =
      ⟨recording.parts, recording.failure.or (some error)⟩ := by
  simp [attempt, h]

theorem parts_attempt (recording : Recording σ) (edit : Edit σ) :
    (recording.attempt edit).parts = recording.parts ∨
      edit recording.parts = .ok (recording.attempt edit).parts := by
  cases h : edit recording.parts with
  | ok parts =>
      right
      rw [attempt_of_ok h]
  | error error =>
      left
      rw [attempt_of_error h]

theorem failure_attemptAll {recording : Recording σ} {error : Error}
    (edits : List (Edit σ)) (h : recording.failure = some error) :
    (recording.attemptAll edits).failure = some error := by
  induction edits generalizing recording with
  | nil => exact h
  | cons edit rest ih =>
      apply ih
      unfold attempt
      split <;> simp [h]

/-!
What holds of the parts at first and is kept by every edit that goes through
holds of the parts in the end.
-/

variable {P : σ → Prop}

theorem attempt_keeps {recording : Recording σ} {edit : Edit σ}
    (hparts : P recording.parts)
    (hedit : ∀ parts, edit recording.parts = .ok parts → P parts) :
    P (recording.attempt edit).parts := by
  rcases parts_attempt recording edit with hsame | hafter
  · rw [hsame]
    exact hparts
  · exact hedit _ hafter

theorem attemptAll_keeps {recording : Recording σ} {edits : List (Edit σ)}
    (hparts : P recording.parts)
    (hedits : ∀ edit ∈ edits, ∀ parts after,
      P parts → edit parts = .ok after → P after) :
    P (recording.attemptAll edits).parts := by
  induction edits generalizing recording with
  | nil => exact hparts
  | cons edit rest ih =>
      have hfirst : P (recording.attempt edit).parts :=
        attempt_keeps hparts fun after =>
          hedits edit List.mem_cons_self recording.parts after hparts
      exact ih hfirst fun other hother =>
        hedits other (List.mem_cons_of_mem edit hother)

end Recording

structure Builder (σ : Type) where
  settings : Settings
  recording : Recording σ

namespace Builder

theorem foldl_record {σ κ : Type} {record : Builder σ → κ → Builder σ}
    (edits : Settings → κ → List (Edit σ))
    (hrecord : ∀ builder call, record builder call =
      ⟨builder.settings,
        builder.recording.attemptAll (edits builder.settings call)⟩)
    (builder : Builder σ) (calls : List κ) :
    calls.foldl record builder =
      ⟨builder.settings,
        builder.recording.attemptAll
          (calls.flatMap (edits builder.settings))⟩ := by
  induction calls generalizing builder with
  | nil => rfl
  | cons call rest ih =>
      rw [List.foldl_cons, hrecord, ih, List.flatMap_cons,
        Recording.attemptAll_append]

end Builder
end SqlAssembler
